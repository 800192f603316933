import Fluoride.Lib.Cmac

/-!
# The crypto toolbox: AES-CMAC and the LE Secure Connections functions

`aes_cmac.cc` computes AES-CMAC with every 16-octet value stored least significant octet
first: `aes_128` reverses key and message around `aes_encrypt`, the message is copied to
the end of a buffer of whole blocks, and the blocks are processed from the last in
memory to the first, block 0 holding the RFC's last block. `crypto_toolbox.cc` builds
the messages of `h6`, `h7`, `f4`, `f5`, `f6` and `g2` by copying their parts into an
array, least significant part first.

`aes_encrypt` under the key `aes_set_key` installed is left abstract: `aesEncrypt key
block` on octets in FIPS-197 order. The thread-local `cmac_cb` is passed explicitly, and
the buffer `alloca` returns starts with what the stack held, `stack i` at octet `i`, so
that the result is seen not to depend on it. A null `input` is `none`.
-/

namespace CryptoToolbox

open Cmac (Block)

/-- `Octet16` (`hci/octets.h`), `std::array<uint8_t, 16>`. -/
abbrev Octet16 := Vector UInt8 16

/-- `kOctet16Length`. -/
def kOctet16Length : Nat := 16

/-- `const_Rb`, least significant octet first. -/
def constRb : Octet16 := Vector.ofFn fun i => if i.1 = 0 then 0x87 else 0

/-- `xor_128(a, b)`: `a[i] ^ b[i]` for every octet. -/
def xor128 (a b : Octet16) : Octet16 := Vector.zipWith (· ^^^ ·) a b

/-- `padding(dest, length)`: for `i` from `length` to 15, octet `15 - i` becomes 0x80
for the first and 0 for the others. -/
def padding (dest : Octet16) (length : UInt8) : Octet16 :=
  (List.range' length.toNat (kOctet16Length - length.toNat)).foldl
    (fun p i => p.setIfInBounds (kOctet16Length - i - 1) (if i = length.toNat then 0x80 else 0))
    dest

/-- The loop of `leftshift_onebit` from `overflow` on, over the octets left. -/
def leftshiftOnebitLoop : UInt8 → List UInt8 → List UInt8
  | _, [] => []
  | overflow, b :: bs =>
    let nextOverflow : UInt8 := if b &&& 0x80 ≠ 0 then 1 else 0
    ((b <<< 1) ||| overflow) :: leftshiftOnebitLoop nextOverflow bs

theorem length_leftshiftOnebitLoop (overflow : UInt8) (l : List UInt8) :
    (leftshiftOnebitLoop overflow l).length = l.length := by
  induction l generalizing overflow with
  | nil => rfl
  | cons b bs ih => simp [leftshiftOnebitLoop, ih]

/-- `leftshift_onebit(input, output)`: the 128-bit value, least significant octet first,
shifted left by one bit; the top bit of each octet carries into the next. -/
def leftshiftOnebit (input : Octet16) : Octet16 :=
  ⟨(leftshiftOnebitLoop 0 input.toList).toArray, by simp [length_leftshiftOnebitLoop]⟩

section Aes

variable (aesEncrypt : Octet16 → Octet16 → Octet16)

/-- `aes_128(key, message)`: `aes_encrypt` on the reversed key and message, its output
reversed. -/
def aes128 (key message : Octet16) : Octet16 :=
  (aesEncrypt key.reverse message.reverse).reverse

/-- `tCMAC_CB`: the buffer `text` of `round` blocks and the message length `len`. -/
structure CmacCb where
  text : List UInt8
  len : Nat
  round : Nat

/-- `*(Octet16*)&text[j * kOctet16Length]`: block `j` of the buffer. -/
def blockAt (text : List UInt8) (j : Nat) : Octet16 :=
  Vector.ofFn fun i => text.getD (j * kOctet16Length + i) 0

/-- Writing `b` over block `j` of the buffer, as `xor_128` does through the same cast. -/
def setBlockAt (text : List UInt8) (j : Nat) (b : Octet16) : List UInt8 :=
  text.take (j * kOctet16Length) ++ b.toList ++ text.drop (j * kOctet16Length + kOctet16Length)

/-- One round of `cmac_aes_k_calculate`'s loop: `Mi' := Mi (+) X` in place for block
`round - i`, then `X := AES_128(key, Mi')`. The state is the buffer, `x` and `output`. -/
def cmacAesKCalculateStep (key : Octet16) (round : Nat) (st : List UInt8 × Octet16 × Octet16)
    (i : Nat) : List UInt8 × Octet16 × Octet16 :=
  let text := setBlockAt st.1 (round - i) (xor128 (blockAt st.1 (round - i)) st.2.1)
  let output := aes128 aesEncrypt key (blockAt text (round - i))
  (text, output, output)

/-- `cmac_aes_k_calculate(key)`: the loop `i = 1 .. round` from `x = 0`. `output` is
uninitialised before the first round; `round` is never 0. -/
def cmacAesKCalculate (key : Octet16) (cb : CmacCb) : Octet16 × CmacCb :=
  let st := (List.range' 1 cb.round).foldl (cmacAesKCalculateStep aesEncrypt key cb.round)
    (cb.text, Vector.replicate 16 0, Vector.replicate 16 0)
  (st.2.2, { cb with text := st.1 })

/-- `cmac_prepare_last_block(k1, k2)`: block 0 XORed with `k1` if it is a complete last
block of a non-empty message, else padded and XORed with `k2`. -/
def cmacPrepareLastBlock (k1 k2 : Octet16) (cb : CmacCb) : CmacCb :=
  let flag := cb.len % kOctet16Length = 0 ∧ cb.len ≠ 0
  if flag then { cb with text := setBlockAt cb.text 0 (xor128 (blockAt cb.text 0) k1) }
  else
    let text := setBlockAt cb.text 0 (padding (blockAt cb.text 0) (cb.len % 16).toUInt8)
    { cb with text := setBlockAt text 0 (xor128 (blockAt text 0) k2) }

/-- `cmac_generate_subkey(key)`: `L = AES_128(key, 0)`, then `K1` and `K2` by a shift
and a conditional XOR with `const_Rb`, and the last block prepared with them. -/
def cmacGenerateSubkey (key : Octet16) (cb : CmacCb) : CmacCb :=
  let p := aes128 aesEncrypt key (Vector.replicate 16 0)
  let k1 := if p.get 15 &&& 0x80 ≠ 0 then xor128 (leftshiftOnebit p) constRb
    else leftshiftOnebit p
  let k2 := if k1.get 15 &&& 0x80 ≠ 0 then xor128 (leftshiftOnebit k1) constRb
    else leftshiftOnebit k1
  cmacPrepareLastBlock k1 k2 cb

variable (stack : Nat → UInt8)

/-- `aes_cmac(key, input, length)`. `n` rounds of `kOctet16Length` octets (at least one);
the message is copied to the end of the buffer, at `diff = len - length`, filling it.
No value overflows its C type: `n ≤ 4096` and `len ≤ 65536` in a `uint32_t`. -/
def aesCmac (key : Octet16) (input : Option (List UInt8)) (length : UInt16) : Octet16 :=
  let n := (length.toNat + kOctet16Length - 1) / kOctet16Length
  let n := if n = 0 then 1 else n
  let len := n * kOctet16Length
  let text := (List.range len).map stack
  let diff := len - length.toNat
  let cb : CmacCb :=
    match input with
    | some bytes =>
      if length.toNat > 0 then ⟨text.take diff ++ bytes.take length.toNat, length.toNat, n⟩
      else ⟨text, 0, n⟩
    | none => ⟨text, 0, n⟩
  (cmacAesKCalculate aesEncrypt key (cmacGenerateSubkey aesEncrypt key cb)).1

/-! ## `crypto_toolbox.cc` -/

/-- `h6(w, keyid)`. -/
def h6 (w : Octet16) (keyid : Vector UInt8 4) : Octet16 :=
  aesCmac aesEncrypt stack w (some keyid.toList) 4

/-- `h7(salt, w)`. -/
def h7 (salt w : Octet16) : Octet16 :=
  aesCmac aesEncrypt stack salt (some w.toList) 16

/-- `f4(u, v, x, z)`: the message `z`, `v`, `u` in memory. -/
def f4 (u v : Vector UInt8 32) (x : Octet16) (z : UInt8) : Octet16 :=
  aesCmac aesEncrypt stack x (some ([z] ++ v.toList ++ u.toList)) 65

/-- `calculate_mac_key_or_ltk`: the message `length`, `a2`, `a1`, `n2`, `n1`, `key_id`,
`counter` in memory. -/
def calculateMacKeyOrLtk (t : Octet16) (counter : UInt8) (keyId : Vector UInt8 4)
    (n1 n2 : Octet16) (a1 a2 : Vector UInt8 7) (length : Vector UInt8 2) : Octet16 :=
  aesCmac aesEncrypt stack t
    (some (length.toList ++ a2.toList ++ a1.toList ++ n2.toList ++ n1.toList ++ keyId.toList ++
      [counter])) 53

/-- The salt of `f5`, least significant octet first. -/
def f5Salt : Octet16 :=
  #v[0xBE, 0x83, 0x60, 0x5A, 0xDB, 0x0B, 0x37, 0x60, 0x38, 0xA5, 0xF5, 0xAA, 0x91, 0x83, 0x88, 0x6C]

/-- `f5(w, n1, n2, a1, a2, &mac_key, &ltk)`: `T` from the salt, then the MacKey with
counter 0 and the LTK with counter 1; `key_id` is 0x62746c65 and `length` 0x0100. -/
def f5 (w : Vector UInt8 32) (n1 n2 : Octet16) (a1 a2 : Vector UInt8 7) : Octet16 × Octet16 :=
  let t := aesCmac aesEncrypt stack f5Salt (some w.toList) 32
  let keyId : Vector UInt8 4 := #v[0x65, 0x6c, 0x74, 0x62]
  let length : Vector UInt8 2 := #v[0x00, 0x01]
  (calculateMacKeyOrLtk aesEncrypt stack t 0 keyId n1 n2 a1 a2 length,
    calculateMacKeyOrLtk aesEncrypt stack t 1 keyId n1 n2 a1 a2 length)

/-- `f6(w, n1, n2, r, iocap, a1, a2)`: the message `a2`, `a1`, `iocap`, `r`, `n2`, `n1` in
memory. -/
def f6 (w n1 n2 r : Octet16) (iocap : Vector UInt8 3) (a1 a2 : Vector UInt8 7) : Octet16 :=
  aesCmac aesEncrypt stack w
    (some (a2.toList ++ a1.toList ++ iocap.toList ++ r.toList ++ n2.toList ++ n1.toList)) 65

/-- `le32toh(*(uint32_t*)p)`: the first four octets, least significant first. -/
def le32 (p : Octet16) : UInt32 :=
  (p.get 0).toUInt32 ||| ((p.get 1).toUInt32 <<< 8) ||| ((p.get 2).toUInt32 <<< 16) |||
    ((p.get 3).toUInt32 <<< 24)

/-- `g2(u, v, x, y)`: the message `y`, `v`, `u` in memory; the value is the CMAC modulo
`2^32`, modulo `10^6`. -/
def g2 (u v : Vector UInt8 32) (x y : Octet16) : UInt32 :=
  let cmac := aesCmac aesEncrypt stack x (some (y.toList ++ v.toList ++ u.toList)) 80
  le32 cmac % 1000000

end Aes

end CryptoToolbox

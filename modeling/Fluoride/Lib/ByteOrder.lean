import Mathlib.Data.UInt

/-!
# Words assembled from octets

A word read from octets is assembled with shifts and `|`: each octet lands on bits of its own,
so the `|` is a sum. These rules turn such an assembly into the number it stands for, for the
octets in either order (`toNat_be32`, and the little-endian words built the same way).
-/

namespace ByteOrder

theorem or_shiftLeft_eq_add {x y k : Nat} (hx : x < 2 ^ k) : x ||| y <<< k = x + y * 2 ^ k := by
  rw [Nat.or_comm, ← Nat.shiftLeft_add_eq_or_of_lt hx, Nat.shiftLeft_eq, Nat.add_comm]

theorem shiftLeft_or_eq_add {x y k : Nat} (hy : y < 2 ^ k) : x <<< k ||| y = x * 2 ^ k + y := by
  rw [← Nat.shiftLeft_add_eq_or_of_lt hy, Nat.shiftLeft_eq]

theorem toNat_toUInt32_shiftLeft (b : UInt8) (s : UInt32) (hs : s.toNat ≤ 24) :
    (b.toUInt32 <<< s).toNat = b.toNat <<< s.toNat := by
  rw [UInt32.toNat_shiftLeft, UInt8.toNat_toUInt32, Nat.mod_eq_of_lt (show s.toNat < 32 by omega),
    Nat.mod_eq_of_lt]
  calc b.toNat <<< s.toNat = b.toNat * 2 ^ s.toNat := Nat.shiftLeft_eq _ _
    _ < 2 ^ 8 * 2 ^ s.toNat := Nat.mul_lt_mul_of_pos_right b.toNat_lt (Nat.two_pow_pos _)
    _ = 2 ^ (8 + s.toNat) := by rw [Nat.pow_add]
    _ ≤ 2 ^ 32 := Nat.pow_le_pow_right (by decide) (by omega)

/-- Four octets, most significant first, make the word of their digits in base 256. -/
theorem toNat_be32 (a b c d : UInt8) :
    (a.toUInt32 <<< 24 ||| b.toUInt32 <<< 16 ||| c.toUInt32 <<< 8 ||| d.toUInt32).toNat =
      a.toNat * 2 ^ 24 + b.toNat * 2 ^ 16 + c.toNat * 2 ^ 8 + d.toNat := by
  have hb := b.toNat_lt
  have hc := c.toNat_lt
  have hd := d.toNat_lt
  rw [UInt32.toNat_or, UInt32.toNat_or, UInt32.toNat_or, UInt8.toNat_toUInt32,
    toNat_toUInt32_shiftLeft _ _ (by decide), toNat_toUInt32_shiftLeft _ _ (by decide),
    toNat_toUInt32_shiftLeft _ _ (by decide)]
  have e8 : (8 : UInt32).toNat = 8 := rfl
  have e16 : (16 : UInt32).toNat = 16 := rfl
  have e24 : (24 : UInt32).toNat = 24 := rfl
  -- from the last octet up, each octet lies below the bits of the one before it
  rw [e8, e16, e24, Nat.or_assoc, Nat.or_assoc, shiftLeft_or_eq_add (k := 8) (by omega),
    shiftLeft_or_eq_add (k := 16) (by omega), shiftLeft_or_eq_add (k := 24) (by omega)]
  omega

end ByteOrder

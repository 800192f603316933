import Fluoride.Btm.Rpa
import Fluoride.Lib.CStr

/-!
# Addresses as text (`gd/hci/address.cc`, `types/raw_address.cc`)

`ToString` writes the six octets of an address as two lower-case hexadecimal digits each,
separated by colons, from the most significant octet: an `hci::Address` holds that octet
last, a `RawAddress` first. `FromString` reads such a text back: it wants 17 characters, cuts
them at the colons with `std::getline`, and reads each of the six fields of two characters
with `strtol(.., 16)`, which must read the whole field.

The round trip holds (`Address.fromString_toString`, `RawAddress.fromString_toString`), but
`strtol` reads a sign or a space before a single digit, so `FromString` takes fields such as
`-1` (the octet `0xff`), `+f` or ` f` as well as two digits (`fromString_signed_field`).

`RawAddress() = default` leaves the octets uninitialised; the model starts from zeros, which
`FromString` overwrites whenever it succeeds.
-/

namespace Rpa

open CStr

/-- `_ToMaskedColonSepHexString(bytes_to_mask)`: from the most significant octet, the first
`bytes_to_mask` octets as `xx`, the others in hexadecimal. -/
def Address.toMaskedColonSepHexString (a : Address) (bytesToMask : Nat) : List Char :=
  [':'].intercalate ((List.finRange 6).map fun count =>
    if count.val < bytesToMask then ['x', 'x'] else formatHex2 (a.address.get count.rev))

/-- `Address::ToString`. -/
def Address.toString (a : Address) : List Char := a.toMaskedColonSepHexString 0

/-- `RawAddress::ToColonSepHexString`, which `ToString` returns. -/
def RawAddress.toColonSepHexString (a : RawAddress) : List Char :=
  [':'].intercalate ((List.finRange 6).map fun i => formatHex2 (a.address.get i))

/-- The loop of both `FromString`s over the fields `std::getline` cuts: field `index` is
stored at octet `slot index` (`5 - index` for an `hci::Address`, `index` for a
`RawAddress`). -/
def colonSepHexLoop (slot : Nat → Nat) (octets : Vector UInt8 6) (index : Nat) :
    List (List Char) → Option (Vector UInt8 6)
  | [] => if index = 6 then some octets else none
  | token :: rest =>
    if 6 ≤ index then none
    else if token.length ≠ 2 then none
    else
      let (value, read) := strtol token 16
      let octets := octets.setIfInBounds (slot index) (toUInt8 value)
      -- "string token is empty or has wrong format"
      if read = 0 then none
      -- "cannot parse whole string"
      else if read ≠ token.length then none
      else colonSepHexLoop slot octets (index + 1) rest

/-- Both `FromString`s, storing the fields at `slot`. -/
def colonSepHexFromString (slot : Nat → Nat) (s : List Char) : Option (Vector UInt8 6) :=
  if s.length ≠ 17 then none
  else colonSepHexLoop slot (Vector.replicate 6 0) 0 (getlineFields ':' [] s)

/-- `Address::FromString`. -/
def Address.fromString (s : List Char) : Option Address :=
  (colonSepHexFromString (fun index => 5 - index) s).map Address.mk

/-- `RawAddress::FromString`: the address it writes to `to` when it returns `true`. -/
def RawAddress.fromString (s : List Char) : Option RawAddress :=
  (colonSepHexFromString (fun index => index) s).map RawAddress.mk

/-! ## The round trip -/

theorem colon_not_mem_formatHex2 (b : UInt8) : ':' ∉ formatHex2 b := by
  have digits : ∀ n < 16, hexDigitChar n ≠ ':' := by decide
  have hb := b.toNat_lt
  simp only [formatHex2, List.mem_cons, List.not_mem_nil, or_false, not_or]
  exact ⟨(digits _ (by omega)).symm, (digits _ (by omega)).symm⟩

/-- A field of two digits is stored and the loop goes on. -/
theorem colonSepHexLoop_formatHex2 (slot : Nat → Nat) (octets : Vector UInt8 6) {index : Nat}
    (h : index < 6) (b : UInt8) (rest : List (List Char)) :
    colonSepHexLoop slot octets index (formatHex2 b :: rest) =
      colonSepHexLoop slot (octets.setIfInBounds (slot index) b) (index + 1) rest := by
  rw [colonSepHexLoop, if_neg (by omega),
    if_neg (show ¬(formatHex2 b).length ≠ 2 from fun differs => differs rfl)]
  simp only [strtol_formatHex2, toUInt8_toNat]
  rfl

/-- Six fields of two digits, joined by colons, are read back octet by octet. -/
theorem colonSepHexFromString_formatHex2 (slot : Nat → Nat) (b : Fin 6 → UInt8) :
    colonSepHexFromString slot
        ([':'].intercalate ((List.finRange 6).map fun i => formatHex2 (b i))) =
      some ((((((((Vector.replicate 6 0).setIfInBounds (slot 0) (b 0)).setIfInBounds
        (slot 1) (b 1)).setIfInBounds (slot 2) (b 2)).setIfInBounds (slot 3) (b 3)).setIfInBounds
          (slot 4) (b 4)).setIfInBounds (slot 5) (b 5))) := by
  have fields : (List.finRange 6).map (fun i => formatHex2 (b i)) =
      [formatHex2 (b 0), formatHex2 (b 1), formatHex2 (b 2), formatHex2 (b 3), formatHex2 (b 4),
        formatHex2 (b 5)] := by
    simp [List.finRange]
  have cut := getlineFields_intercalate (formatHex2 (b 0))
    [formatHex2 (b 1), formatHex2 (b 2), formatHex2 (b 3), formatHex2 (b 4), formatHex2 (b 5)]
    (colon_not_mem_formatHex2 _) (by simp [colon_not_mem_formatHex2]) (by simp [formatHex2])
  rw [colonSepHexFromString, fields, if_neg (by simp [formatHex2]), cut]
  simp (disch := decide) only [colonSepHexLoop_formatHex2]
  rfl

/-- **`FromString` reads back what `ToString` writes.** -/
theorem Address.fromString_toString (a : Address) : Address.fromString a.toString = some a := by
  obtain ⟨octets⟩ := a
  have written : (Address.mk octets).toString = [':'].intercalate ((List.finRange 6).map fun i =>
      formatHex2 (octets.get i.rev)) := by
    simp [Address.toString, Address.toMaskedColonSepHexString]
  rw [Address.fromString, written, colonSepHexFromString_formatHex2, Option.map_some]
  congr 2
  apply Vector.ext
  intro i hi
  interval_cases i <;> simp [Vector.get, Fin.rev]

theorem RawAddress.fromString_toString (a : RawAddress) :
    RawAddress.fromString a.toColonSepHexString = some a := by
  obtain ⟨octets⟩ := a
  rw [RawAddress.fromString, RawAddress.toColonSepHexString, colonSepHexFromString_formatHex2,
    Option.map_some]
  congr 2
  apply Vector.ext
  intro i hi
  interval_cases i <;> simp [Vector.get]

/-! ## What else `FromString` reads -/

/-- A field `-1`, which is not two hexadecimal digits, is read as the octet `0xff`: the
address then writes back as `ff:00:00:00:00:00`. -/
theorem fromString_signed_field :
    Address.fromString "-1:00:00:00:00:00".toList = some ⟨#v[0, 0, 0, 0, 0, 0xff]⟩ ∧
      RawAddress.fromString "-1:00:00:00:00:00".toList = some ⟨#v[0xff, 0, 0, 0, 0, 0]⟩ ∧
      (Address.mk #v[0, 0, 0, 0, 0, 0xff]).toString = "ff:00:00:00:00:00".toList := by
  decide

end Rpa

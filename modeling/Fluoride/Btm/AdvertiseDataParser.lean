import Fluoride.Lib.LengthPrefixed

/-!
# Advertising data (`advertise_data_parser.h`)

Advertising and scan response data is a sequence of fields, each a length byte `L`, a type byte
and `L - 1` data bytes. `AdvertiseDataParser` walks it field by field from offset `0` in three
places:
* `IsValid` checks it;
* `RemoveTrailingZeros` cuts zero padding off it;
* `GetFieldByType` looks a field up.

The three loops are one loop (`walkFields`). They differ only in what they do at a zero length
byte, at a field that does not fit, and at a field.

The vector is a `List UInt8` and a pointer into it an offset. A read through `ad[i]` or `ad + i`
past the end of the data is undefined behaviour, and makes the model return `none`. The loop
recurses on the distance to the end: every iteration that goes on moves past a field.
-/

namespace Btm

/-- `trx_quirk`: the scan response data of a Traxxas device. -/
def trxQuirk : List UInt8 :=
  [0x14, 0x09, 0x54, 0xFF, 0xFF, 0x20, 0x42, 0x4C, 0x45, 0x05, 0x12, 0xFF, 0x00, 0xE8, 0x03, 0x02,
    0x0A, 0x00]

/-- `MalformedPacketQuirk(ad, position)`: from `position` on, at least 18 bytes that agree with
`trx_quirk` in the three ranges the code compares with `std::equal`. -/
def malformedPacketQuirk (ad : List UInt8) (position : Nat) : Bool :=
  ad.length - position ≥ 18 &&
    (ad.drop position).take 3 == trxQuirk.take 3 &&
    (ad.drop (position + 5)).take 6 == (trxQuirk.drop 5).take 6 &&
    (ad.drop (position + 12)).take 6 == (trxQuirk.drop 12).take 6

/-- The loop of the three walkers, `while (position != ad_len)`, from `position` over the first
`adLen` bytes of `ad`. A zero length byte ends it with `atZero position`, a field that does not
fit (`position + len >= ad_len`) with `atOverrun position`, and the end of the data with
`atEnd`. At a field, `atField position len` may read further and end the loop, or let it move
on past the field. -/
def walkFields {α : Type} (ad : List UInt8) (adLen : Nat) (atEnd : α) (atZero atOverrun : Nat → α)
    (atField : Nat → UInt8 → Option (Option α)) (position : Nat) : Option α :=
  if position = adLen then some atEnd
  else match ad[position]? with
    | none => none
    | some len =>
      if len = 0 then some (atZero position)
      else if _overrun : position + len.toNat ≥ adLen then some (atOverrun position)
      else match atField position len with
        | none => none
        | some (some r) => some r
        | some none => walkFields ad adLen atEnd atZero atOverrun atField (position + len.toNat + 1)
termination_by adLen - position
decreasing_by omega

/-- `IsValid(ad)`: zero padding to the end is accepted, and a field that does not fit only
under `MalformedPacketQuirk`. -/
def isValid (ad : List UInt8) : Option Bool :=
  walkFields ad ad.length true (fun position => (ad.drop (position + 1)).all (· == 0))
    (fun position => malformedPacketQuirk ad position) (fun _ _ => some none) 0

/-- `RemoveTrailingZeros(ad)`: the vector after it. A zero length byte erases everything from
it on. -/
def removeTrailingZeros (ad : List UInt8) : Option (List UInt8) :=
  walkFields ad ad.length ad (fun position => ad.take position) (fun _ => ad)
    (fun _ _ => some none) 0

/-- `GetFieldByType(ad, ad_len, type, p_length)`: the offset from `ad` of the data of the first
field of type `type`, `none` for `NULL`, and `*p_length`. -/
def getFieldByType (ad : List UInt8) (adLen : Nat) (type : UInt8) : Option (Option Nat × UInt8) :=
  walkFields ad adLen (none, 0) (fun _ => (none, 0)) (fun _ => (none, 0))
    (fun position len => ad[position + 1]?.map fun advType =>
      -- "length doesn't include itself", "minus the length of type"
      if advType = type then some (some (position + 2), len - 1) else none) 0

/-- `GetFieldByType(ad, type, p_length)` on a vector: over its whole size. -/
def getFieldByTypeVector (ad : List UInt8) (type : UInt8) : Option (Option Nat × UInt8) :=
  getFieldByType ad ad.length type

/-! ## One iteration -/

section Walk

variable {α : Type} {ad : List UInt8} {adLen : Nat} {atEnd : α} {atZero atOverrun : Nat → α}
  {atField : Nat → UInt8 → Option (Option α)} {position : Nat}

theorem walkFields_of_end (h : position = adLen) :
    walkFields ad adLen atEnd atZero atOverrun atField position = some atEnd := by
  rw [walkFields, if_pos h]

theorem walkFields_of_zero (ne : position ≠ adLen) (read : ad[position]? = some 0) :
    walkFields ad adLen atEnd atZero atOverrun atField position = some (atZero position) := by
  rw [walkFields, if_neg ne, read]
  rfl

theorem walkFields_of_overrun {len : UInt8} (ne : position ≠ adLen) (read : ad[position]? = some len)
    (nz : len ≠ 0) (past : adLen ≤ position + len.toNat) :
    walkFields ad adLen atEnd atZero atOverrun atField position = some (atOverrun position) := by
  rw [walkFields, if_neg ne, read]
  simp only [if_neg nz, dif_pos past]

theorem walkFields_of_hit {len : UInt8} {r : α} (ne : position ≠ adLen)
    (read : ad[position]? = some len) (nz : len ≠ 0) (fits : position + len.toNat < adLen)
    (hit : atField position len = some (some r)) :
    walkFields ad adLen atEnd atZero atOverrun atField position = some r := by
  rw [walkFields, if_neg ne, read]
  simp only [if_neg nz, dif_neg (Nat.not_le.2 fits), hit]

theorem walkFields_of_next {len : UInt8} (ne : position ≠ adLen)
    (read : ad[position]? = some len) (nz : len ≠ 0) (fits : position + len.toNat < adLen)
    (next : atField position len = some none) :
    walkFields ad adLen atEnd atZero atOverrun atField position =
      walkFields ad adLen atEnd atZero atOverrun atField (position + len.toNat + 1) := by
  rw [walkFields, if_neg ne, read]
  simp only [if_neg nz, dif_neg (Nat.not_le.2 fits), next]

end Walk

end Btm

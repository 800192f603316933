import Mathlib

/-!
# Numbers and fields read the way the C library reads them

`strtol` skips white space, takes an optional sign and, in base 16, an optional `0x` prefix
when a digit follows it, then the longest run of digits of the base. It returns the value,
clamped to the range of `long`, and how many characters it read; it reads nothing when there
is no digit. `std::getline` with a delimiter cuts a stream into the fields between
delimiters; a final delimiter is not followed by an empty field. `std::hex` with
`std::setw(2)` and `std::setfill('0')` writes an octet as two lower-case digits.

A field written as digits of the base is read back as its value (`strtol_formatHex2`), and
fields joined by a delimiter they do not contain are cut back into those fields
(`getlineFields_intercalate`). `fgets` with a buffer of `size` characters reads up to a newline,
or `size - 1` characters when no newline comes first: a line that fits is read whole
(`fgetsLines_line`), a longer one in pieces (`fgetsLines_full`). What `strtol` also accepts, a sign or a space before the
digits, is what makes a two-character field more than two digits (`strtol_sign_digit`).
-/

namespace CStr

/-- `isspace` in the "C" locale. -/
def isSpace (c : Char) : Bool :=
  c == ' ' || c == '\t' || c == '\n' || c == '\x0b' || c == '\x0c' || c == '\r'

/-- The value of a digit in the bases up to 36, letters of either case. -/
def digitValue (c : Char) : Option Nat :=
  if '0' ≤ c ∧ c ≤ '9' then some (c.toNat - '0'.toNat)
  else if 'a' ≤ c ∧ c ≤ 'z' then some (c.toNat - 'a'.toNat + 10)
  else if 'A' ≤ c ∧ c ≤ 'Z' then some (c.toNat - 'A'.toNat + 10)
  else none

/-- A digit of the base. -/
def isDigitOf (base : Nat) (c : Char) : Bool :=
  match digitValue c with
  | some d => decide (d < base)
  | none => false

/-- The longest run of digits of the base at the front: its value, after `acc`, and its
length. -/
def readDigits (base acc : Nat) : List Char → Nat × Nat
  | [] => (acc, 0)
  | c :: cs =>
    match digitValue c with
    | some d =>
      if d < base then
        let rest := readDigits base (acc * base + d) cs
        (rest.1, rest.2 + 1)
      else (acc, 0)
    | none => (acc, 0)

/-- A `0x` or `0X` prefix followed by a hexadecimal digit. -/
def hexPrefixed : List Char → Bool
  | '0' :: x :: d :: _ => (x == 'x' || x == 'X') && isDigitOf 16 d
  | _ => false

def longMax : Int := 2 ^ 63 - 1
def longMin : Int := -2 ^ 63

/-- `strtol(s, &end, base)`: the value and `end - s`. -/
def strtol (s : List Char) (base : Nat) : Int × Nat :=
  let spaces := (s.takeWhile isSpace).length
  let afterSpace := s.drop spaces
  let (negative, signLen) : Bool × Nat :=
    match afterSpace with
    | '-' :: _ => (true, 1)
    | '+' :: _ => (false, 1)
    | _ => (false, 0)
  let afterSign := afterSpace.drop signLen
  let prefixLen := if base = 16 ∧ hexPrefixed afterSign then 2 else 0
  let (value, count) := readDigits base 0 (afterSign.drop prefixLen)
  -- no digit: nothing is read and `end` is `s`
  if count = 0 then (0, 0)
  else
    (if negative then max longMin (-(value : Int)) else min longMax (value : Int),
      spaces + signLen + prefixLen + count)

/-- The conversion of a `long` to `uint8_t`: the value modulo 256. -/
def toUInt8 (v : Int) : UInt8 := (v % 256).toNat.toUInt8

/-- `std::getline(stream, field, delim)` until it fails: the fields, `field` being the one
read so far, backwards. -/
def getlineFields (delim : Char) (field : List Char) : List Char → List (List Char)
  | [] => if field.isEmpty then [] else [field.reverse]
  | c :: cs =>
    if c = delim then field.reverse :: getlineFields delim [] cs
    else getlineFields delim (c :: field) cs

/-- A lower-case hexadecimal digit. -/
def hexDigitChar (d : Nat) : Char :=
  if d < 10 then Char.ofNat ('0'.toNat + d) else Char.ofNat ('a'.toNat + d - 10)

/-- An octet through `std::hex << std::setw(2) << std::setfill('0')`. -/
def formatHex2 (b : UInt8) : List Char :=
  [hexDigitChar (b.toNat / 16), hexDigitChar (b.toNat % 16)]

/-! ## Reading back what was written -/

theorem digitValue_hexDigitChar {d : Nat} (h : d < 16) : digitValue (hexDigitChar d) = some d := by
  have cases : ∀ n < 16, digitValue (hexDigitChar n) = some n := by decide
  exact cases d h

theorem isSpace_hexDigitChar {d : Nat} (h : d < 16) : isSpace (hexDigitChar d) = false := by
  have cases : ∀ n < 16, isSpace (hexDigitChar n) = false := by decide
  exact cases d h

theorem hexDigitChar_ne_sign {d : Nat} (h : d < 16) :
    hexDigitChar d ≠ '-' ∧ hexDigitChar d ≠ '+' := by
  have cases : ∀ n < 16, hexDigitChar n ≠ '-' ∧ hexDigitChar n ≠ '+' := by decide
  exact cases d h

/-- Two hexadecimal digits are read as their value, both of them. -/
theorem strtol_hexPair {a b : Char} {x y : Nat} (ha : digitValue a = some x) (hx : x < 16)
    (hb : digitValue b = some y) (hy : y < 16) (space : isSpace a = false) (minus : a ≠ '-')
    (plus : a ≠ '+') : strtol [a, b] 16 = (((16 * x + y : Nat) : Int), 2) := by
  have read : readDigits 16 0 [a, b] = (16 * x + y, 2) := by
    simp [readDigits, ha, hx, hb, hy]
    omega
  have noPrefix : hexPrefixed [a, b] = false := by
    unfold hexPrefixed
    split <;> simp_all
  simp only [strtol, List.takeWhile, space, List.length_nil, List.drop_zero]
  -- the first character is neither sign
  split
  next _ _ first => exact absurd (List.cons.inj first).1 minus
  next _ _ first => exact absurd (List.cons.inj first).1 plus
  next =>
    simp only [noPrefix, Bool.false_eq_true, and_false, if_false, List.drop_zero, read]
    -- two digits are read, and their value is far below `LONG_MAX`
    have fits : min longMax ((16 * x + y : Nat) : Int) = (16 * x + y : Nat) := by
      unfold longMax
      omega
    rw [if_neg (by decide), fits]

theorem strtol_formatHex2 (b : UInt8) : strtol (formatHex2 b) 16 = ((b.toNat : Int), 2) := by
  have hb := b.toNat_lt
  have high : b.toNat / 16 < 16 := by omega
  have low : b.toNat % 16 < 16 := by omega
  obtain ⟨minus, plus⟩ := hexDigitChar_ne_sign high
  rw [formatHex2, strtol_hexPair (digitValue_hexDigitChar high) high (digitValue_hexDigitChar low)
    low (isSpace_hexDigitChar high) minus plus]
  congr 2
  omega

theorem toUInt8_toNat (b : UInt8) : toUInt8 (b.toNat : Int) = b := by
  have hb := b.toNat_lt
  simp only [toUInt8]
  rw [Int.emod_eq_of_lt (by omega) (by omega), Int.toNat_natCast, Nat.toUInt8_eq,
    UInt8.ofNat_toNat]

/-- Reading a field up to the delimiter, or the end. -/
theorem getlineFields_append {delim : Char} {p : List Char} (hp : delim ∉ p)
    (rest field : List Char) :
    getlineFields delim field (p ++ rest) = getlineFields delim (p.reverse ++ field) rest := by
  induction p generalizing field with
  | nil => rfl
  | cons c p ih =>
    have hc : c ≠ delim := fun same => hp (same ▸ List.mem_cons_self)
    rw [List.cons_append, getlineFields, if_neg hc,
      ih (fun mem => hp (List.mem_cons_of_mem c mem)), List.reverse_cons, List.append_assoc]
    rfl

/-- **Cutting at the delimiter undoes joining by it**, for fields without the delimiter and
a last field that is not empty. -/
theorem getlineFields_intercalate {delim : Char} :
    ∀ (f : List Char) (fs : List (List Char)), delim ∉ f → (∀ g ∈ fs, delim ∉ g) →
      (f :: fs).getLast (List.cons_ne_nil f fs) ≠ [] →
      getlineFields delim [] ([delim].intercalate (f :: fs)) = f :: fs
  | f, [], hf, _, last => by
    rw [List.intercalate_singleton, ← List.append_nil f, getlineFields_append hf,
      List.append_nil, getlineFields]
    have nonempty : f ≠ [] := last
    simp [nonempty]
  | f, g :: gs, hf, hgs, last => by
    rw [List.intercalate_cons_cons, List.append_assoc, getlineFields_append hf, List.append_nil,
      List.singleton_append,
      getlineFields, if_pos rfl, List.reverse_reverse,
      getlineFields_intercalate g gs (hgs g List.mem_cons_self)
        (fun h mem => hgs h (List.mem_cons_of_mem g mem)) last]

/-! ## What else `strtol` reads -/

/-- A sign before a single digit is read too: a minus negates it. -/
theorem strtol_sign_digit {b : Char} {y : Nat} (hb : digitValue b = some y) (hy : y < 16) :
    strtol ['-', b] 16 = (-(y : Int), 2) ∧ strtol ['+', b] 16 = ((y : Int), 2) := by
  have read : readDigits 16 0 [b] = (y, 1) := by
    simp [readDigits, hb, hy]
  have low : max longMin (-(y : Int)) = -(y : Int) := by
    unfold longMin
    omega
  have high : min longMax (y : Int) = (y : Int) := by
    unfold longMax
    omega
  constructor
  · simp [strtol, isSpace, hexPrefixed, read, low]
  · simp [strtol, isSpace, hexPrefixed, read, high]

/-! ## `fgets` -/

/-- The reads of `while (fgets(line, size, fp))` over the rest of a file, `line` holding what
the current read has taken. A read ends after a newline, which it keeps, or once it holds
`size - 1` characters. The last read is cut short by the end of the file. -/
def fgetsLines (size : Nat) (line : List Char) : List Char → List (List Char)
  | [] => if line = [] then [] else [line]
  | c :: rest =>
    if c = '\n' ∨ line.length + 1 = size - 1 then (line ++ [c]) :: fgetsLines size [] rest
    else fgetsLines size (line ++ [c]) rest

/-- A line that fits in the buffer with its newline is read whole. -/
theorem fgetsLines_line {size : Nat} {l : List Char} (oneLine : '\n' ∉ l) (rest : List Char) :
    ∀ {line : List Char}, line.length + l.length + 1 ≤ size - 1 →
      fgetsLines size line (l ++ '\n' :: rest) = (line ++ l ++ ['\n']) :: fgetsLines size [] rest := by
  induction l with
  | nil =>
    intro line _
    simp [fgetsLines]
  | cons c l ih =>
    intro line fits
    have notNewline : c ≠ '\n' := fun same => oneLine (same ▸ List.mem_cons_self)
    have room : line.length + 1 ≠ size - 1 := by simp at fits; omega
    rw [List.cons_append, fgetsLines, if_neg (by simp [notNewline, room]),
      ih (fun mem => oneLine (List.mem_cons_of_mem c mem)) (by simp at fits ⊢; omega)]
    simp

/-- Without a newline, a read ends when the buffer is full: the rest of the line is read next. -/
theorem fgetsLines_full {size : Nat} {l : List Char} (oneLine : '\n' ∉ l) (nonempty : l ≠ [])
    (rest : List Char) :
    ∀ {line : List Char}, line.length + l.length = size - 1 →
      fgetsLines size line (l ++ rest) = (line ++ l) :: fgetsLines size [] rest := by
  induction l with
  | nil => exact absurd rfl nonempty
  | cons c l ih =>
    intro line full
    have notNewline : c ≠ '\n' := fun same => oneLine (same ▸ List.mem_cons_self)
    by_cases last : l = []
    · -- the buffer fills with `c`
      subst last
      rw [List.cons_append, List.nil_append, fgetsLines, if_pos (.inr (by simpa using full))]
    · have more : l ≠ [] := last
      have room : line.length + 1 ≠ size - 1 := by
        have := List.length_pos_iff.2 more
        simp at full
        omega
      rw [List.cons_append, fgetsLines, if_neg (by simp [notNewline, room]),
        ih (fun mem => oneLine (List.mem_cons_of_mem c mem)) more (by simp at full ⊢; omega)]
      simp

end CStr

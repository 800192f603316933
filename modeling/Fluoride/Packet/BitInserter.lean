import Fluoride.Lib.BitList

/-!
# `BitInserter`: bits packed into bytes (`bit_inserter.cc`, `byte_inserter.cc`)

`BitInserter::insert_bits(byte, num_bits)` keeps up to seven bits in `saved_bits_` between
calls. A call puts the new bits above the saved ones in a `uint16_t`; when there are eight, it
appends the low byte through `ByteInserter::insert_byte`, which first gives the byte to every
registered observer, and saves the rest under a mask. That packing is `packBits`, the lines
`FragmentingInserter::insert_bits` repeats.

* `packBits_spec`: for `num_bits ≤ 8`, the byte emitted and the bits saved after are the bits
  saved before followed by the low `num_bits` bits of `byte`. No bit of `byte` above
  `num_bits` gets in, and at most seven bits stay saved.
* `run_spec`: over any calls of at most eight bits, the bytes appended and then the saved bits
  are the bits written before followed by the calls' bits, and every observer is given each
  appended byte once, in order.
-/

namespace Packet

open BitList

/-- `ByteInserter`: a back inserter into a byte vector, and its registered observers, each
given as the bytes its `OnByte` has been called with. -/
structure ByteInserter where
  vector : List UInt8
  observers : List (List UInt8)
  deriving DecidableEq, Repr

namespace ByteInserter

/-- `ByteInserter(vector)`: no observer registered. -/
def new (vector : List UInt8) : ByteInserter := ⟨vector, []⟩

/-- `RegisterObserver`: a new observer, given nothing yet, at the back. -/
def registerObserver (it : ByteInserter) : ByteInserter :=
  { it with observers := it.observers ++ [[]] }

/-- `on_byte`: every registered observer is given the byte. -/
def onByte (it : ByteInserter) (byte : UInt8) : ByteInserter :=
  { it with observers := it.observers.map (· ++ [byte]) }

/-- `insert_byte`: the observers first, then the vector. -/
def insertByte (it : ByteInserter) (byte : UInt8) : ByteInserter :=
  let it := it.onByte byte
  { it with vector := it.vector ++ [byte] }

end ByteInserter

/-- The packing that `BitInserter::insert_bits` and `FragmentingInserter::insert_bits` share:
the byte to emit when the saved bits and the new ones make eight, the number of bits saved
after, and the saved bits. `new_value` is the `uint16_t` of the source. The mask
`0xff >> (8 - num_saved_bits_)` is computed in `int`. Past eight saved bits, `8 - num_saved_bits_`
would wrap in `size_t`, whereas the model's subtraction stops at zero. No call of at most eight
bits gets there. -/
def packBits (savedBits : UInt8) (numSavedBits : Nat) (byte : UInt8) (numBits : Nat) :
    Option UInt8 × Nat × UInt8 :=
  let totalBits := numBits + numSavedBits
  let newValue := (savedBits.toNat ||| byte.toNat <<< numSavedBits) % 2 ^ 16
  let (emitted, totalBits, newValue) :=
    if totalBits ≥ 8 then (some (UInt8.ofNat newValue), totalBits - 8, newValue >>> 8)
    else (none, totalBits, newValue)
  let mask : UInt8 := UInt8.ofNat (0xff >>> (8 - totalBits))
  (emitted, totalBits, UInt8.ofNat newValue &&& mask)

/-- `BitInserter`: a `ByteInserter` with the bits that do not make a byte yet. -/
structure BitInserter extends ByteInserter where
  numSavedBits : Nat
  savedBits : UInt8
  deriving DecidableEq, Repr

namespace BitInserter

/-- `BitInserter(vector)`. -/
def new (vector : List UInt8) : BitInserter :=
  { ByteInserter.new vector with numSavedBits := 0, savedBits := 0 }

/-- `RegisterObserver`, inherited from `ByteInserter`. -/
def registerObserver (it : BitInserter) : BitInserter :=
  { it with toByteInserter := it.toByteInserter.registerObserver }

/-- `BitInserter::insert_bits`. The byte goes out through `ByteInserter::insert_byte`, which
the source names with its class, so no virtual call is made. -/
def insertBits (it : BitInserter) (byte : UInt8) (numBits : Nat) : BitInserter :=
  let (emitted, numSavedBits, savedBits) := packBits it.savedBits it.numSavedBits byte numBits
  let bytes := match emitted with
    | some newByte => it.toByteInserter.insertByte newByte
    | none => it.toByteInserter
  { bytes with numSavedBits, savedBits }

/-- `BitInserter::insert_byte`: eight bits. -/
def insertByte (it : BitInserter) (byte : UInt8) : BitInserter := it.insertBits byte 8

end BitInserter

/-- A call on an inserter: `insert_bits(byte, num_bits)` or `insert_byte(byte)`. -/
inductive InsertCall
  | insertBits (byte : UInt8) (numBits : Nat)
  | insertByte (byte : UInt8)
  deriving DecidableEq, Repr

namespace InsertCall

def byte : InsertCall → UInt8
  | insertBits b _ => b
  | insertByte b => b

/-- The bits a call writes, `insert_byte` counting as eight. -/
def numBits : InsertCall → Nat
  | insertBits _ n => n
  | insertByte _ => 8

/-- What a call writes: the low `numBits` bits of its byte, least significant first. -/
def bits (c : InsertCall) : List Bool := lowBits c.byte.toNat c.numBits

end InsertCall

namespace BitInserter

def step (it : BitInserter) : InsertCall → BitInserter
  | .insertBits byte n => it.insertBits byte n
  | .insertByte byte => it.insertByte byte

def run (it : BitInserter) (calls : List InsertCall) : BitInserter := calls.foldl step it

theorem step_eq (it : BitInserter) (c : InsertCall) : it.step c = it.insertBits c.byte c.numBits := by
  cases c <;> rfl

@[simp] theorem run_nil (it : BitInserter) : it.run [] = it := rfl

@[simp] theorem run_cons (it : BitInserter) (c : InsertCall) (calls : List InsertCall) :
    it.run (c :: calls) = (it.step c).run calls := rfl

end BitInserter

/-! ## The packing -/

/-- What `insert_bits` keeps between calls: fewer than eight bits, none set above them. -/
structure Saved (numSavedBits : Nat) (savedBits : UInt8) : Prop where
  lt_eight : numSavedBits < 8
  lt_two_pow : savedBits.toNat < 2 ^ numSavedBits

/-- The mask of `insert_bits` keeps the low `t` bits, for `t ≤ 8`. -/
theorem toNat_masked {y t : Nat} (ht : t ≤ 8) :
    (UInt8.ofNat y &&& UInt8.ofNat (0xff >>> (8 - t))).toNat = y % 2 ^ t := by
  have mask : (0xff : Nat) >>> (8 - t) = 2 ^ t - 1 := by
    apply Nat.eq_of_testBit_eq
    intro i
    rw [Nat.testBit_shiftRight, show (0xff : Nat) = 2 ^ 8 - 1 from rfl,
      Nat.testBit_two_pow_sub_one, Nat.testBit_two_pow_sub_one]
    simp only [decide_eq_decide]
    omega
  have small : 2 ^ t - 1 < 2 ^ 8 :=
    lt_of_lt_of_le (Nat.sub_lt (Nat.two_pow_pos t) Nat.one_pos)
      (Nat.pow_le_pow_right Nat.zero_lt_two ht)
  rw [UInt8.toNat_and, UInt8.toNat_ofNat', UInt8.toNat_ofNat', mask, Nat.mod_eq_of_lt small,
    Nat.and_two_pow_sub_one_eq_mod, Nat.mod_mod_of_dvd _ (Nat.pow_dvd_pow 2 ht)]

section Packing

variable {numSavedBits numBits : Nat} {savedBits byte : UInt8}

/-- With eight bits or more, the low byte goes out and what lies above it is saved. -/
theorem packBits_of_le (full : 8 ≤ numBits + numSavedBits) :
    packBits savedBits numSavedBits byte numBits =
      (some (UInt8.ofNat ((savedBits.toNat ||| byte.toNat <<< numSavedBits) % 2 ^ 16)),
        numBits + numSavedBits - 8,
        UInt8.ofNat (((savedBits.toNat ||| byte.toNat <<< numSavedBits) % 2 ^ 16) >>> 8) &&&
          UInt8.ofNat (0xff >>> (8 - (numBits + numSavedBits - 8)))) := by
  simp only [packBits, ge_iff_le, if_pos full]

/-- With fewer than eight bits, all are saved. -/
theorem packBits_of_lt (partial_ : numBits + numSavedBits < 8) :
    packBits savedBits numSavedBits byte numBits =
      (none, numBits + numSavedBits,
        UInt8.ofNat ((savedBits.toNat ||| byte.toNat <<< numSavedBits) % 2 ^ 16) &&&
          UInt8.ofNat (0xff >>> (8 - (numBits + numSavedBits)))) := by
  simp only [packBits, ge_iff_le, if_neg (Nat.not_le.2 partial_)]

/-- **The packing writes the bits in order.** The byte emitted, if any, then the bits saved
after, are the bits saved before and then the low `numBits` bits of `byte`. -/
theorem packBits_spec (byte : UInt8) (saved : Saved numSavedBits savedBits) (small : numBits ≤ 8) :
    Saved (packBits savedBits numSavedBits byte numBits).2.1
        (packBits savedBits numSavedBits byte numBits).2.2 ∧
      bytesBits (packBits savedBits numSavedBits byte numBits).1.toList ++
          lowBits (packBits savedBits numSavedBits byte numBits).2.2.toNat
            (packBits savedBits numSavedBits byte numBits).2.1 =
        lowBits savedBits.toNat numSavedBits ++ lowBits byte.toNat numBits := by
  -- the saved bits with `byte` above them, before `uint16_t` cuts them
  have join := lowBits_or_shiftLeft (n := numBits) byte.toNat saved.lt_two_pow
  have fewer := saved.lt_eight
  by_cases full : 8 ≤ numBits + numSavedBits
  · -- the low byte goes out; its bits and the saved ones make up the low bits again
    rw [packBits_of_le full]
    dsimp only
    refine ⟨⟨by omega, ?_⟩, ?_⟩
    · rw [toNat_masked (by omega)]
      exact Nat.mod_lt _ (Nat.two_pow_pos _)
    · rw [Option.toList_some, bytesBits_singleton, UInt8.toNat_ofNat', toNat_masked (by omega),
        lowBits_mod_two_pow le_rfl, lowBits_mod_two_pow le_rfl, ← lowBits_add,
        show 8 + (numBits + numSavedBits - 8) = numSavedBits + numBits by omega,
        lowBits_mod_two_pow (by omega), join]
  · rw [packBits_of_lt (by omega)]
    dsimp only
    refine ⟨⟨by omega, ?_⟩, ?_⟩
    · rw [toNat_masked (by omega)]
      exact Nat.mod_lt _ (Nat.two_pow_pos _)
    · rw [Option.toList_none, bytesBits_nil, List.nil_append, toNat_masked (by omega),
        lowBits_mod_two_pow le_rfl, lowBits_mod_two_pow (by omega), Nat.add_comm, join]

end Packing

/-! ## Runs of `BitInserter` -/

namespace BitInserter

/-- What a `BitInserter` has written: the bytes of its vector, then the bits it keeps. -/
def written (it : BitInserter) : List Bool :=
  bytesBits it.vector ++ lowBits it.savedBits.toNat it.numSavedBits

/-- `insert_bits` appends the byte `packBits` emits, to the vector and to every observer, and
keeps what `packBits` saves. -/
theorem insertBits_eq (it : BitInserter) (byte : UInt8) (numBits : Nat) :
    it.insertBits byte numBits =
      { vector := it.vector ++ (packBits it.savedBits it.numSavedBits byte numBits).1.toList,
        observers := it.observers.map
          (· ++ (packBits it.savedBits it.numSavedBits byte numBits).1.toList),
        numSavedBits := (packBits it.savedBits it.numSavedBits byte numBits).2.1,
        savedBits := (packBits it.savedBits it.numSavedBits byte numBits).2.2 } := by
  unfold insertBits
  rcases packBits it.savedBits it.numSavedBits byte numBits with ⟨_ | newByte, t, v⟩
  · simp
  · simp [ByteInserter.insertByte, ByteInserter.onByte]

theorem insertBits_written {it : BitInserter} (saved : Saved it.numSavedBits it.savedBits)
    {numBits : Nat} (small : numBits ≤ 8) (byte : UInt8) :
    Saved (it.insertBits byte numBits).numSavedBits (it.insertBits byte numBits).savedBits ∧
      (it.insertBits byte numBits).written = it.written ++ lowBits byte.toNat numBits := by
  obtain ⟨keeps, bits⟩ := packBits_spec byte saved small
  rw [insertBits_eq]
  refine ⟨keeps, ?_⟩
  simp only [written, bytesBits_append, List.append_assoc, bits]

/-- **A run packs the calls' bits.** Over calls of at most eight bits each, the vector grows
by some bytes, every observer is given exactly those bytes in order, and the bits written are
followed by the calls' bits. -/
theorem run_spec (it : BitInserter) (saved : Saved it.numSavedBits it.savedBits)
    (calls : List InsertCall) (small : ∀ c ∈ calls, c.numBits ≤ 8) :
    ∃ appended, (it.run calls).vector = it.vector ++ appended ∧
      (it.run calls).observers = it.observers.map (· ++ appended) ∧
      (it.run calls).written = it.written ++ calls.flatMap InsertCall.bits ∧
      Saved (it.run calls).numSavedBits (it.run calls).savedBits := by
  induction calls generalizing it with
  | nil => exact ⟨[], by simp, by simp, by simp, saved⟩
  | cons c calls ih =>
    -- one call, by `packBits_spec`, then the rest from the state it leaves
    have first := insertBits_written saved (small c (List.mem_cons_self ..)) c.byte
    obtain ⟨appended, vector, observers, written, keeps⟩ :=
      ih (it.step c) (by rw [step_eq]; exact first.1) fun c' mem => small c' (List.mem_cons_of_mem c mem)
    refine ⟨(packBits it.savedBits it.numSavedBits c.byte c.numBits).1.toList ++ appended,
      ?_, ?_, ?_, keeps⟩
    · rw [run_cons, vector, step_eq, insertBits_eq, List.append_assoc]
    · rw [run_cons, observers, step_eq, insertBits_eq, List.map_map]
      simp [Function.comp_def, List.append_assoc]
    · rw [run_cons, written, step_eq, first.2, List.flatMap_cons, InsertCall.bits,
        List.append_assoc]

theorem registerObserver_iterate (vector : List UInt8) (k : Nat) :
    registerObserver^[k] (new vector) =
      { vector, observers := List.replicate k [], numSavedBits := 0, savedBits := 0 } := by
  induction k with
  | zero => rfl
  | succ k ih =>
    rw [Function.iterate_succ_apply', ih]
    simp [registerObserver, ByteInserter.registerObserver, List.replicate_succ']

end BitInserter

end Packet

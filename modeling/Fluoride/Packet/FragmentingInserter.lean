import Fluoride.Packet.BitInserter

/-!
# `FragmentingInserter`: packed bytes cut into builders (`fragmenting_inserter.cc`, `raw_builder.cc`)

`FragmentingInserter::insert_bits` repeats `BitInserter::insert_bits` (`packBits`), but
instead of appending a byte to a vector it adds the byte to the current `RawBuilder`. When that
builder holds `mtu` bytes, it is moved out through `iterator_` and a new one is started.
`finalize` moves out the last builder if it is not empty.

* `run_simulates`: a fragmenting inserter holds, in its builders moved out and then the current
  one, the bytes a `BitInserter` appends over the same calls. Every builder moved out is full.
* `bit_inserter_fragments`: the bytes a `BitInserter` appends, then its saved bits, are the
  calls' bits, and each observer is given each byte once. For `mtu > 0`, the builders a
  `FragmentingInserter` moves out over the same calls and `finalize` hold those bytes: each
  builder has `mtu` bytes, except a last one with between one and `mtu`.
* `fragmentingInserter_mtu_zero`: with `mtu = 0`, `AddOctets1` refuses every byte, and each
  byte moves out an empty builder.
-/

namespace Packet

open BitList

/-- `RawBuilder`: a payload that `AddOctets` grows up to `max_bytes_`. -/
structure RawBuilder where
  maxBytes : Nat
  payload : List UInt8
  deriving DecidableEq, Repr

namespace RawBuilder

/-- `RawBuilder(max_bytes)`. -/
def new (maxBytes : Nat) : RawBuilder := ⟨maxBytes, []⟩

def size (rb : RawBuilder) : Nat := rb.payload.length

/-- `AddOctets(octets, bytes)`. -/
def addOctets (rb : RawBuilder) (octets : Nat) (bytes : List UInt8) : Bool × RawBuilder :=
  if rb.payload.length + octets > rb.maxBytes then (false, rb)
  else if octets ≠ bytes.length then (false, rb)
  else (true, { rb with payload := rb.payload ++ bytes })

/-- The loop of `AddOctets(octets, value)`: `octets` bytes of `v`, each `v & 0xff` before
`v >>= 8`, and what is left of `v`. -/
def splitOctets : Nat → UInt64 → List UInt8 × UInt64
  | 0, v => ([], v)
  | k + 1, v =>
    let (rest, left) := splitOctets k (v >>> 8)
    ((v &&& 0xff).toUInt8 :: rest, left)

/-- `AddOctets(octets, value)`, the overload on a `uint64_t`. -/
def addOctetsValue (rb : RawBuilder) (octets : Nat) (value : UInt64) : Bool × RawBuilder :=
  if octets > 8 then (false, rb)
  else
    let (valVector, v) := splitOctets octets value
    if v ≠ 0 then (false, rb) else rb.addOctets octets valVector

/-- `AddOctets1(value)`. -/
def addOctets1 (rb : RawBuilder) (value : UInt8) : Bool × RawBuilder :=
  rb.addOctetsValue 1 value.toUInt64

/-- One octet of a byte is the byte, and nothing is left. -/
theorem splitOctets_one (value : UInt8) : splitOctets 1 value.toUInt64 = ([value], 0) := by
  have below : value.toNat < 256 := value.toNat_lt
  simp only [splitOctets, Prod.mk.injEq, List.cons.injEq, and_true]
  constructor
  · rw [← UInt8.toNat_inj, UInt64.toNat_toUInt8, UInt64.toNat_and, UInt8.toNat_toUInt64,
      show (0xff : UInt64).toNat = 2 ^ 8 - 1 from rfl, Nat.and_two_pow_sub_one_eq_mod,
      Nat.mod_eq_of_lt below, Nat.mod_eq_of_lt (by omega)]
  · rw [← UInt64.toNat_inj, UInt64.toNat_shiftRight, UInt8.toNat_toUInt64,
      Nat.shiftRight_eq_div_pow]
    simp only [UInt64.toNat_zero]
    show value.toNat / 2 ^ 8 = 0
    omega

/-- `AddOctets1` appends the byte when there is room, and refuses it otherwise. -/
theorem addOctets1_eq (rb : RawBuilder) (value : UInt8) :
    rb.addOctets1 value =
      if rb.payload.length + 1 > rb.maxBytes then (false, rb)
      else (true, { rb with payload := rb.payload ++ [value] }) := by
  simp [addOctets1, addOctetsValue, splitOctets_one, addOctets]

end RawBuilder

/-- `FragmentingInserter`: a `BitInserter` whose bytes go to the current builder, and the
builders moved out through `iterator_`, in order. -/
structure FragmentingInserter extends BitInserter where
  mtu : Nat
  currPacket : Option RawBuilder
  packets : List RawBuilder
  deriving DecidableEq, Repr

namespace FragmentingInserter

/-- `FragmentingInserter(mtu, iterator)`. Its `BitInserter` base writes to
`to_construct_bit_inserter_`, which nothing appends to. -/
def new (mtu : Nat) : FragmentingInserter :=
  { BitInserter.new [] with mtu, currPacket := some (RawBuilder.new mtu), packets := [] }

/-- `FragmentingInserter::insert_bits`. After `finalize` the current builder is gone and
`assert(curr_packet_ != nullptr)` aborts: `none`. -/
def insertBits (it : FragmentingInserter) (byte : UInt8) (numBits : Nat) :
    Option FragmentingInserter := do
  let currPacket ← it.currPacket
  let (emitted, numSavedBits, savedBits) := packBits it.savedBits it.numSavedBits byte numBits
  let it := match emitted with
    | none => it
    | some newByte =>
      -- `AddOctets1`'s result is not looked at
      let currPacket := (currPacket.addOctets1 newByte).2
      let it := { it with observers := (it.toByteInserter.onByte newByte).observers }
      if currPacket.size ≥ it.mtu then
        { it with packets := it.packets ++ [currPacket], currPacket := some (RawBuilder.new it.mtu) }
      else { it with currPacket := some currPacket }
  pure { it with numSavedBits, savedBits }

/-- `insert_byte`, inherited from `BitInserter`: eight bits, through the virtual
`insert_bits`. -/
def insertByte (it : FragmentingInserter) (byte : UInt8) : Option FragmentingInserter :=
  it.insertBits byte 8

/-- `finalize`: the current builder is moved out unless it is empty, and is gone after. A
second `finalize` reads the size of a null builder: `none`. -/
def finalize (it : FragmentingInserter) : Option FragmentingInserter := do
  let currPacket ← it.currPacket
  let packets := if currPacket.size ≠ 0 then it.packets ++ [currPacket] else it.packets
  pure { it with packets, currPacket := none }

def step (it : FragmentingInserter) : InsertCall → Option FragmentingInserter
  | .insertBits byte n => it.insertBits byte n
  | .insertByte byte => it.insertByte byte

def run (it : FragmentingInserter) (calls : List InsertCall) : Option FragmentingInserter :=
  calls.foldlM step it

theorem step_eq (it : FragmentingInserter) (c : InsertCall) :
    it.step c = it.insertBits c.byte c.numBits := by
  cases c <;> rfl

/-! ## The simulation -/

/-- A fragmenting inserter with current builder `curr` against a `BitInserter` over the same
calls, whose vector began with `pre`: its builders' payloads, then the current one's, are what
the `BitInserter` appended, and the saved bits agree. Every builder moved out is full, and the
current one has room, with `mtu` as its limit. -/
structure Simulates (pre : List UInt8) (f : FragmentingInserter) (b : BitInserter)
    (curr : RawBuilder) : Prop where
  current : f.currPacket = some curr
  maxBytes : curr.maxBytes = f.mtu
  room : curr.size < f.mtu
  full : ∀ p ∈ f.packets, p.size = f.mtu
  bytes : pre ++ (f.packets.flatMap RawBuilder.payload ++ curr.payload) = b.vector
  numSavedBits : f.numSavedBits = b.numSavedBits
  savedBits : f.savedBits = b.savedBits

theorem simulates_new {mtu : Nat} (pos : 0 < mtu) (b : BitInserter)
    (fresh_bits : b.numSavedBits = 0) (fresh_saved : b.savedBits = 0) :
    Simulates b.vector (new mtu) b (RawBuilder.new mtu) :=
  ⟨rfl, rfl, pos, (fun _ none => nomatch none), (by simp [new, RawBuilder.new]),
    fresh_bits.symm, fresh_saved.symm⟩

section Calls

variable {f : FragmentingInserter} {curr : RawBuilder} {byte : UInt8} {numBits : Nat}

/-- A call that emits no byte changes only the saved bits. -/
theorem insertBits_of_none (current : f.currPacket = some curr) {t : Nat} {v : UInt8}
    (packed : packBits f.savedBits f.numSavedBits byte numBits = (none, t, v)) :
    f.insertBits byte numBits = some { f with numSavedBits := t, savedBits := v } := by
  simp [insertBits, current, packed]

/-- The builder after a byte is added: `AddOctets1` appends it when there is room. -/
theorem addOctets1_snd (fits : curr.payload.length < curr.maxBytes) (newByte : UInt8) :
    (curr.addOctets1 newByte).2 = ⟨curr.maxBytes, curr.payload ++ [newByte]⟩ := by
  rw [RawBuilder.addOctets1_eq, if_neg (Nat.not_lt.2 fits)]

/-- A call whose byte fills the current builder gives the byte to the observers, moves the
builder out and starts an empty one. -/
theorem insertBits_of_full (current : f.currPacket = some curr)
    (fits : curr.payload.length < curr.maxBytes) (full : f.mtu ≤ curr.size + 1)
    {newByte : UInt8} {t : Nat} {v : UInt8}
    (packed : packBits f.savedBits f.numSavedBits byte numBits = (some newByte, t, v)) :
    f.insertBits byte numBits = some
      { f with observers := f.observers.map (· ++ [newByte]),
               packets := f.packets ++ [⟨curr.maxBytes, curr.payload ++ [newByte]⟩],
               currPacket := some (RawBuilder.new f.mtu), numSavedBits := t, savedBits := v } := by
  simp only [RawBuilder.size] at full
  simp [insertBits, current, packed, addOctets1_snd fits, ByteInserter.onByte, RawBuilder.size,
    full]

/-- A call whose byte leaves room in the current builder gives the byte to the observers and
adds it to the builder. -/
theorem insertBits_of_room (current : f.currPacket = some curr)
    (fits : curr.payload.length < curr.maxBytes) (room : curr.size + 1 < f.mtu)
    {newByte : UInt8} {t : Nat} {v : UInt8}
    (packed : packBits f.savedBits f.numSavedBits byte numBits = (some newByte, t, v)) :
    f.insertBits byte numBits = some
      { f with observers := f.observers.map (· ++ [newByte]),
               currPacket := some ⟨curr.maxBytes, curr.payload ++ [newByte]⟩,
               numSavedBits := t, savedBits := v } := by
  simp only [RawBuilder.size] at room
  simp [insertBits, current, packed, addOctets1_snd fits, ByteInserter.onByte, RawBuilder.size,
    Nat.not_le.2 room]

end Calls

/-- **One call keeps the simulation.** -/
theorem insertBits_simulates {pre : List UInt8} {f : FragmentingInserter} {b : BitInserter}
    {curr : RawBuilder} (sim : Simulates pre f b curr) (byte : UInt8) (numBits : Nat) :
    ∃ f' curr', f.insertBits byte numBits = some f' ∧
      Simulates pre f' (b.insertBits byte numBits) curr' ∧ f'.mtu = f.mtu := by
  have room := sim.room
  have bytes := sim.bytes
  have same : packBits f.savedBits f.numSavedBits byte numBits =
      packBits b.savedBits b.numSavedBits byte numBits := by
    rw [sim.savedBits, sim.numSavedBits]
  rw [BitInserter.insertBits_eq]
  rcases packed : packBits b.savedBits b.numSavedBits byte numBits with ⟨_ | newByte, t, v⟩
  · -- nothing emitted: only the saved bits change
    rw [insertBits_of_none sim.current (same.trans packed)]
    exact ⟨_, curr, rfl, ⟨sim.current, sim.maxBytes, sim.room, sim.full, by simpa using bytes,
      rfl, rfl⟩, rfl⟩
  · have fits : curr.payload.length < curr.maxBytes := by
      rw [sim.maxBytes]
      exact room
    by_cases full : f.mtu ≤ curr.size + 1
    · -- the builder is full: moved out, with `mtu` bytes
      rw [insertBits_of_full sim.current fits full (same.trans packed)]
      refine ⟨_, RawBuilder.new f.mtu, rfl, ⟨rfl, rfl, ?_, ?_, ?_, rfl, rfl⟩, rfl⟩
      · show 0 < f.mtu
        omega
      · intro p mem
        rcases List.mem_append.1 mem with old | last
        · exact sim.full p old
        · rw [List.mem_singleton.1 last]
          simp only [RawBuilder.size, List.length_append, List.length_singleton] at room full ⊢
          omega
      · simp [← bytes, RawBuilder.new]
    · rw [insertBits_of_room sim.current fits (by omega) (same.trans packed)]
      refine ⟨_, ⟨curr.maxBytes, curr.payload ++ [newByte]⟩, rfl,
        ⟨rfl, sim.maxBytes, ?_, sim.full, ?_, rfl, rfl⟩, rfl⟩
      · simp only [RawBuilder.size, List.length_append, List.length_singleton] at full ⊢
        omega
      · simp [← bytes]

/-- **A run keeps the simulation**, whatever the calls: the fragmenting inserter never aborts
before `finalize`. -/
theorem run_simulates {pre : List UInt8} {f : FragmentingInserter} {b : BitInserter}
    {curr : RawBuilder} (sim : Simulates pre f b curr) (calls : List InsertCall) :
    ∃ f' curr', f.run calls = some f' ∧ Simulates pre f' (b.run calls) curr' ∧ f'.mtu = f.mtu := by
  induction calls generalizing f b curr with
  | nil => exact ⟨f, curr, rfl, sim, rfl⟩
  | cons c calls ih =>
    obtain ⟨f₁, curr₁, first, sim₁, mtu₁⟩ := insertBits_simulates sim c.byte c.numBits
    obtain ⟨f', curr', rest, sim', mtu'⟩ := ih sim₁
    refine ⟨f', curr', ?_, ?_, mtu'.trans mtu₁⟩
    · rw [run, List.foldlM_cons, step_eq, first]
      exact rest
    · rwa [BitInserter.run_cons, BitInserter.step_eq]

/-- **`finalize` leaves full builders and a last one with between one and `mtu` bytes**,
holding the bytes appended. -/
theorem finalize_spec {pre : List UInt8} {f : FragmentingInserter} {b : BitInserter}
    {curr : RawBuilder} (sim : Simulates pre f b curr) :
    ∃ fin, f.finalize = some fin ∧
      (∀ p ∈ fin.packets.dropLast, p.size = f.mtu) ∧
      (∀ p ∈ fin.packets.getLast?, 0 < p.size ∧ p.size ≤ f.mtu) ∧
      pre ++ fin.packets.flatMap RawBuilder.payload = b.vector := by
  have room := sim.room
  unfold finalize
  rw [sim.current]
  by_cases empty : curr.size = 0
  · -- nothing is moved out: the last builder, if any, is a full one
    have nothing : curr.payload = [] := List.length_eq_zero_iff.1 empty
    refine ⟨_, rfl, ?_, ?_, ?_⟩
    · intro p mem
      simp only [empty, ne_eq, not_true_eq_false, if_false] at mem
      exact sim.full p (List.dropLast_subset _ mem)
    · intro p mem
      simp only [empty, ne_eq, not_true_eq_false, if_false] at mem
      have := sim.full p (List.mem_of_getLast? mem)
      omega
    · simpa [empty, nothing] using sim.bytes
  · -- the current builder is the last one
    refine ⟨_, rfl, ?_, ?_, ?_⟩
    · intro p mem
      simp only [empty, ne_eq, not_false_eq_true, if_true, List.dropLast_concat] at mem
      exact sim.full p mem
    · intro p mem
      simp only [empty, ne_eq, not_false_eq_true, if_true, List.getLast?_concat,
        Option.mem_some_iff] at mem
      subst mem
      omega
    · simpa [empty, List.append_assoc] using sim.bytes

end FragmentingInserter

/-! ## The claim -/

/-- **The inserters write the calls' bits.** From a `BitInserter` on any vector with
`observers` observers registered, over calls of at most eight bits each: the bytes appended,
then the saved bits, are the calls' bits, low bit first, and every observer is given exactly
the appended bytes, in order. A `FragmentingInserter` with `mtu > 0` over the same calls never
aborts, and after `finalize` its builders hold those same bytes, in builders of `mtu` bytes but
for a last one of between one and `mtu`. -/
theorem bit_inserter_fragments (vector : List UInt8) (observers mtu : Nat) (pos : 0 < mtu)
    (calls : List InsertCall) (small : ∀ c ∈ calls, c.numBits ≤ 8) :
    let it := (BitInserter.registerObserver^[observers] (BitInserter.new vector)).run calls
    ∃ appended, it.vector = vector ++ appended ∧
      bytesBits appended ++ lowBits it.savedBits.toNat it.numSavedBits =
        calls.flatMap InsertCall.bits ∧
      it.observers = List.replicate observers appended ∧
      ∃ fin, ((FragmentingInserter.new mtu).run calls).bind FragmentingInserter.finalize = some fin ∧
        (∀ p ∈ fin.packets.dropLast, p.size = mtu) ∧
        (∀ p ∈ fin.packets.getLast?, 0 < p.size ∧ p.size ≤ mtu) ∧
        fin.packets.flatMap RawBuilder.payload = appended := by
  -- the registrations leave no bit saved and every observer given nothing
  rw [BitInserter.registerObserver_iterate]
  intro it
  have fresh : Saved 0 (0 : UInt8) := ⟨Nat.succ_pos 7, Nat.one_pos⟩
  obtain ⟨appended, vec, obs, written, -⟩ :=
    BitInserter.run_spec ⟨⟨vector, List.replicate observers []⟩, 0, 0⟩ fresh calls small
  refine ⟨appended, vec, ?_, by simpa using obs, ?_⟩
  · simpa [BitInserter.written, vec] using written
  · -- the fragmenting inserter simulates the same run, from the vector it started with
    obtain ⟨f', curr', ran, sim, mtu'⟩ := FragmentingInserter.run_simulates
      (FragmentingInserter.simulates_new pos ⟨⟨vector, List.replicate observers []⟩, 0, 0⟩ rfl rfl)
      calls
    obtain ⟨fin, finished, full, last, bytes⟩ := FragmentingInserter.finalize_spec sim
    have fin_mtu : f'.mtu = mtu := mtu'
    refine ⟨fin, by rw [ran]; exact finished, fin_mtu ▸ full, fin_mtu ▸ last, ?_⟩
    exact List.append_cancel_left (bytes.trans vec)

theorem bit_inserter_fragments_two :
    0 < 2 ∧ (∀ c ∈ [InsertCall.insertBits 5 3, .insertByte 0xab, .insertBits 1 1], c.numBits ≤ 8) ∧
      let it := (BitInserter.registerObserver^[1] (BitInserter.new [7])).run
        [.insertBits 5 3, .insertByte 0xab, .insertBits 1 1]
      ∃ appended, it.vector = [7] ++ appended ∧
        bytesBits appended ++ lowBits it.savedBits.toNat it.numSavedBits =
          [InsertCall.insertBits 5 3, .insertByte 0xab, .insertBits 1 1].flatMap InsertCall.bits ∧
        it.observers = List.replicate 1 appended ∧
        ∃ fin, ((FragmentingInserter.new 2).run
            [.insertBits 5 3, .insertByte 0xab, .insertBits 1 1]).bind
              FragmentingInserter.finalize = some fin ∧
          (∀ p ∈ fin.packets.dropLast, p.size = 2) ∧
          (∀ p ∈ fin.packets.getLast?, 0 < p.size ∧ p.size ≤ 2) ∧
          fin.packets.flatMap RawBuilder.payload = appended :=
  ⟨Nat.zero_lt_two, by decide,
    bit_inserter_fragments [7] 1 2 Nat.zero_lt_two [.insertBits 5 3, .insertByte 0xab, .insertBits 1 1]
      (by decide)⟩

/-- **With `mtu = 0` the bytes are lost.** `RawBuilder(0)` has room for nothing, so
`AddOctets1` refuses the byte, and the empty builder has reached `mtu` and is moved out: one
byte inserted leaves one empty builder, where a `BitInserter` appends the byte. -/
theorem fragmentingInserter_mtu_zero :
    (((FragmentingInserter.new 0).run [.insertByte 0xab]).bind FragmentingInserter.finalize).map
        (fun fin => fin.packets.map RawBuilder.payload) = some [[]] ∧
      ((BitInserter.new []).run [.insertByte 0xab]).vector = [0xab] := by
  decide

end Packet

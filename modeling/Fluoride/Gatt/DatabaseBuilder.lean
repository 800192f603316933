import Fluoride.Gatt.Database

/-!
# GATT client — building the database during discovery (`bta/gatt/database_builder.cc`)

Discovery on the client calls `AddService`, `AddIncludedService`, `AddCharacteristic` and
`AddDescriptor` with what the remote server reports, then walks the services still to explore
(`StartNextServiceExploration`) and, in each, the handle ranges between characteristics where
descriptors can be (`NextDescriptorRangeToExplore`), until that returns `EXPLORE_END`.

The services live in a `std::list`, so `Service*` pointers stay valid across insertions; the
model keeps them as a list and tracks the index a pointer names. `services_to_discover` is a
`std::set` of handle pairs, kept as a sorted list without repetitions. `AddService` inserts
where `std::lower_bound` finds the first service that does not end before the new handle; the
model takes the first such service, which is what `lower_bound` returns whenever the services
are partitioned by that test.

All handles are `uint16_t`: `declaration_handle + 2` and `declaration_handle - 1` wrap.
-/

namespace Gatt

/-- `DatabaseBuilder::EXPLORE_END`. -/
def exploreEnd : UInt16 × UInt16 := (0xFFFF, 0xFFFF)

/-- The state of a `DatabaseBuilder`. -/
structure DatabaseBuilder where
  database : Database
  pendingService : UInt16 × UInt16
  pendingCharacteristic : UInt16
  servicesToDiscover : List (UInt16 × UInt16)
  descriptorHandlesToRead : List UInt16
  deriving DecidableEq

/-- The order of `std::pair`: lexicographic. -/
def pairLt (a b : UInt16 × UInt16) : Bool := a.1 < b.1 || (a.1 = b.1 && a.2 < b.2)

/-- `std::set::insert` into a sorted list without repetitions. -/
def setInsert (x : UInt16 × UInt16) : List (UInt16 × UInt16) → List (UInt16 × UInt16)
  | [] => [x]
  | y :: ys => if pairLt x y then x :: y :: ys else if x = y then y :: ys else y :: setInsert x ys

/-- The index of the service `FindService` returns. -/
def findServiceIdx (services : List Service) (handle : UInt16) : Option Nat :=
  services.findIdx? fun service => handle ≥ service.handle && handle ≤ service.endHandle

/-- Where `AddService` puts a new service: at the end when there are no services or the last
one ends before the handle, else before the first service that does not end before it. -/
def addServicePosition (services : List Service) (handle : UInt16) : Nat :=
  match services.getLast? with
  | none => 0
  | some last =>
    if last.endHandle < handle then services.length
    else (services.takeWhile fun s => s.endHandle < handle).length

namespace DatabaseBuilder

/-- `DatabaseBuilder::AddService`. -/
def addService (b : DatabaseBuilder) (handle endHandle : UInt16) (uuid : Uuid)
    (isPrimary : Bool) : DatabaseBuilder :=
  let service : Service := ⟨handle, uuid, isPrimary, endHandle, [], []⟩
  { b with
    database := ⟨b.database.services.insertIdx (addServicePosition b.database.services handle)
      service⟩
    servicesToDiscover := setInsert (handle, endHandle) b.servicesToDiscover }

/-- `DatabaseBuilder::AddIncludedService`. -/
def addIncludedService (b : DatabaseBuilder) (handle : UInt16) (uuid : Uuid)
    (startHandle endHandle : UInt16) : DatabaseBuilder :=
  match findServiceIdx b.database.services handle with
  | none => b  -- "Illegal action to add to non-existing service!"
  | some idx =>
    -- an included service not seen before must be a secondary service
    let (b, idx) :=
      if (findService b.database.services startHandle).isNone then
        let pos := addServicePosition b.database.services startHandle
        -- `service` still points at the same service, one place further if it came after
        (b.addService startHandle endHandle uuid false, if pos ≤ idx then idx + 1 else idx)
      else (b, idx)
    { b with database := ⟨b.database.services.modify idx fun service => { service with
      includedServices := service.includedServices ++ [⟨handle, uuid, startHandle, endHandle⟩] }⟩ }

/-- `DatabaseBuilder::AddCharacteristic`; a value handle after the service's end is only
logged. -/
def addCharacteristic (b : DatabaseBuilder) (handle valueHandle : UInt16) (uuid : Uuid)
    (properties : UInt8) : DatabaseBuilder :=
  match findServiceIdx b.database.services handle with
  | none => b
  | some idx =>
    { b with database := ⟨b.database.services.modify idx fun service => { service with
      characteristics := service.characteristics ++ [⟨handle, uuid, valueHandle, properties, []⟩] }⟩ }

/-- The characteristic `AddDescriptor` attaches a descriptor to: the last one declared at or
before the handle among those before the first declared after it, or the first one. -/
def charNodeIdx (characteristics : List Characteristic) (handle : UInt16) : Nat :=
  (characteristics.takeWhile fun c => !(c.declarationHandle > handle)).length - 1

/-- `DatabaseBuilder::AddDescriptor`. -/
def addDescriptor (b : DatabaseBuilder) (handle : UInt16) (uuid : Uuid) : DatabaseBuilder :=
  match findServiceIdx b.database.services handle with
  | none => b
  | some idx =>
    match b.database.services[idx]? with
    | none => b
    | some service =>
      if service.characteristics.isEmpty then b
      else
        let b := { b with database := ⟨b.database.services.modify idx fun service => { service with
          characteristics := service.characteristics.modify
            (charNodeIdx service.characteristics handle) fun c => { c with
              descriptors := c.descriptors ++ [⟨handle, uuid, 0⟩] } }⟩ }
        -- the value of Characteristic Extended Properties must be read
        if uuid = Uuid.from16Bit gattUuidCharExtProp then
          { b with descriptorHandlesToRead := b.descriptorHandlesToRead ++ [handle] }
        else b

/-- The loop of `StartNextServiceExploration` over the ranges left to discover. -/
def startNextServiceExplorationFrom (b : DatabaseBuilder) :
    List (UInt16 × UInt16) → DatabaseBuilder × Bool
  | [] => ({ b with servicesToDiscover := [] }, false)
  | range :: rest =>
    -- empty service declaration, nothing to explore, skip to next
    if range.1 = range.2 then startNextServiceExplorationFrom { b with pendingService := range } rest
    else
      ({ b with
          pendingService := range
          servicesToDiscover := rest
          pendingCharacteristic := handleMin }, true)

/-- `DatabaseBuilder::StartNextServiceExploration`. -/
def startNextServiceExploration (b : DatabaseBuilder) : DatabaseBuilder × Bool :=
  b.startNextServiceExplorationFrom b.servicesToDiscover

end DatabaseBuilder

/-- The loop of `NextDescriptorRangeToExplore` over the characteristics from `it` on: the first
one declared after `pendingCharacteristic` that leaves room for a descriptor, and the range
after its value declaration up to the next characteristic or the service's end. -/
def nextDescriptorRangeFrom (service : Service) (pendingCharacteristic : UInt16) :
    List Characteristic → Option (UInt16 × UInt16)
  | [] => none
  | c :: rest =>
    if c.declarationHandle > pendingCharacteristic then
      let start := c.declarationHandle + 2
      let last := match rest with
        | next :: _ => next.declarationHandle - 1
        | [] => service.endHandle
      -- no place for descriptor, skip to next characteristic
      if start > last then nextDescriptorRangeFrom service pendingCharacteristic rest
      else some (start, last)
    else nextDescriptorRangeFrom service pendingCharacteristic rest

namespace DatabaseBuilder

/-- `DatabaseBuilder::NextDescriptorRangeToExplore`. -/
def nextDescriptorRangeToExplore (b : DatabaseBuilder) : DatabaseBuilder × (UInt16 × UInt16) :=
  match findService b.database.services b.pendingService.1 with
  | none => (b, (handleMax, handleMax))
  | some service =>
    if service.characteristics.isEmpty then (b, (handleMax, handleMax))
    else
      match nextDescriptorRangeFrom service b.pendingCharacteristic service.characteristics with
      | some range => ({ b with pendingCharacteristic := range.1 }, range)
      | none => ({ b with pendingCharacteristic := handleMax }, (handleMax, handleMax))

end DatabaseBuilder

/-! ## What one call of `NextDescriptorRangeToExplore` returns -/

/-- A range the loop returns starts two after a characteristic declared after the pending one,
leaves room for a descriptor, and ends at the service's end or one before a characteristic. -/
theorem nextDescriptorRangeFrom_eq_some {service : Service} {pendingCharacteristic : UInt16}
    {start last : UInt16} :
    ∀ {cs : List Characteristic},
      nextDescriptorRangeFrom service pendingCharacteristic cs = some (start, last) →
      ∃ c ∈ cs, pendingCharacteristic < c.declarationHandle ∧ start = c.declarationHandle + 2 ∧
        ¬ start > last ∧
        (last = service.endHandle ∨ ∃ next ∈ cs, last = next.declarationHandle - 1)
  | [], h => nomatch h
  | c :: rest, h => by
    have later : nextDescriptorRangeFrom service pendingCharacteristic rest = some (start, last) →
        ∃ c' ∈ c :: rest, pendingCharacteristic < c'.declarationHandle ∧
          start = c'.declarationHandle + 2 ∧ ¬ start > last ∧
          (last = service.endHandle ∨ ∃ next ∈ c :: rest, last = next.declarationHandle - 1) := by
      intro h'
      obtain ⟨c', mem, after, starts, room, ends⟩ := nextDescriptorRangeFrom_eq_some h'
      refine ⟨c', List.mem_cons_of_mem c mem, after, starts, room, ?_⟩
      rcases ends with ends | ⟨next, mem', ends⟩
      · exact .inl ends
      · exact .inr ⟨next, List.mem_cons_of_mem c mem', ends⟩
    unfold nextDescriptorRangeFrom at h
    dsimp only at h
    split_ifs at h with after noRoom
    · exact later h
    · -- the range after `c`, up to the next characteristic or the service's end
      cases h
      refine ⟨c, List.mem_cons_self, after, rfl, noRoom, ?_⟩
      cases rest with
      | nil => exact .inl rfl
      | cons next rest => exact .inr ⟨next, by simp, rfl⟩
    · exact later h

/-- The characteristics of a service leave the descriptor ranges no room to wrap: each is
declared inside the service, after handle 0 and before `0xFFFE`. -/
structure NoWrap (service : Service) : Prop where
  inside : ∀ c ∈ service.characteristics,
    service.handle ≤ c.declarationHandle ∧ c.declarationHandle ≤ service.endHandle
  pos : ∀ c ∈ service.characteristics, 0 < c.declarationHandle
  below : ∀ c ∈ service.characteristics, c.declarationHandle < 0xFFFE

/-- The characteristics still ahead of the pending one: the ranking of the exploration. -/
def remainingCharacteristics (service : Service) (pendingCharacteristic : UInt16) : Nat :=
  service.characteristics.countP fun c => pendingCharacteristic < c.declarationHandle

/-- Fewer elements pass a stronger test when one element passes only the weaker one. -/
theorem countP_lt_countP_of_imp {α : Type} {p q : α → Bool} :
    ∀ {l : List α}, (∀ x ∈ l, q x = true → p x = true) → (∃ x ∈ l, p x = true ∧ q x = false) →
      l.countP q < l.countP p
  | [], _, ⟨_, mem, _⟩ => absurd mem List.not_mem_nil
  | y :: l, imp, ⟨x, mem, px, qx⟩ => by
    have tail : ∀ z ∈ l, q z = true → p z = true := fun z hz => imp z (List.mem_cons_of_mem y hz)
    have le : l.countP q ≤ l.countP p := List.countP_mono_left tail
    rw [List.countP_cons, List.countP_cons]
    rcases List.mem_cons.mp mem with rfl | mem
    · rw [if_pos px, if_neg (by simp [qx])]
      omega
    · have lt := countP_lt_countP_of_imp tail ⟨x, mem, px, qx⟩
      have head : (if q y = true then 1 else 0) ≤ (if p y = true then 1 else 0) := by
        by_cases qy : q y = true
        · rw [if_pos qy, if_pos (imp y List.mem_cons_self qy)]
        · rw [if_neg qy]
          exact Nat.zero_le _
      omega

/-- **One call, without wrap-around**: the exploration either ends, or returns a non-empty
range inside the service that starts after the pending characteristic, moves the pending
characteristic to its start, and leaves fewer characteristics ahead. -/
theorem nextDescriptorRangeToExplore_cases {b : DatabaseBuilder} {service : Service}
    (found : findService b.database.services b.pendingService.1 = some service)
    (noWrap : NoWrap service) :
    b.nextDescriptorRangeToExplore.2 = exploreEnd ∨
      ∃ range : UInt16 × UInt16,
        b.nextDescriptorRangeToExplore = ({ b with pendingCharacteristic := range.1 }, range) ∧
        service.handle ≤ range.1 ∧ range.1 ≤ range.2 ∧ range.2 ≤ service.endHandle ∧
        b.pendingCharacteristic < range.1 ∧
        remainingCharacteristics service range.1 <
          remainingCharacteristics service b.pendingCharacteristic := by
  unfold DatabaseBuilder.nextDescriptorRangeToExplore
  rw [found]
  dsimp only
  split_ifs with empty
  · exact .inl rfl
  split
  · next range ranged =>
    obtain ⟨start, last⟩ := range
    obtain ⟨c, mem, after, starts, room, ends⟩ := nextDescriptorRangeFrom_eq_some ranged
    obtain ⟨lo, hi⟩ := noWrap.inside c mem
    have below : c.declarationHandle.toNat < 0xFFFE := by
      simpa [UInt16.lt_iff_toNat_lt] using noWrap.below c mem
    rw [UInt16.lt_iff_toNat_lt] at after
    rw [UInt16.le_iff_toNat_le] at lo hi
    -- no wrap: the start is the declaration handle plus two as a number
    have start_eq : start.toNat = c.declarationHandle.toNat + 2 := by
      rw [starts, UInt16.toNat_add]
      simp only [UInt16.reduceToNat]
      omega
    have room' : start.toNat ≤ last.toNat := by
      simpa [UInt16.lt_iff_toNat_lt] using room
    have last_le : last.toNat ≤ service.endHandle.toNat := by
      rcases ends with rfl | ⟨next, mem', rfl⟩
      · exact Nat.le_refl _
      · have pos : 0 < next.declarationHandle.toNat := by
          simpa [UInt16.lt_iff_toNat_lt] using noWrap.pos next mem'
        obtain ⟨-, hi'⟩ := noWrap.inside next mem'
        rw [UInt16.le_iff_toNat_le] at hi'
        have one : (1 : UInt16) ≤ next.declarationHandle := by
          rw [UInt16.le_iff_toNat_le]
          simp only [UInt16.reduceToNat]
          omega
        rw [UInt16.toNat_sub_of_le _ _ one]
        simp only [UInt16.reduceToNat]
        omega
    refine .inr ⟨(start, last), rfl, ?_, ?_, ?_, ?_, ?_⟩
    · show service.handle ≤ start
      rw [UInt16.le_iff_toNat_le]
      omega
    · show start ≤ last
      rw [UInt16.le_iff_toNat_le]
      omega
    · show last ≤ service.endHandle
      rw [UInt16.le_iff_toNat_le]
      omega
    · show b.pendingCharacteristic < start
      rw [UInt16.lt_iff_toNat_lt]
      omega
    · show remainingCharacteristics service start < _
      -- `c` was ahead of the pending characteristic and is not ahead of the new one
      apply countP_lt_countP_of_imp
      · intro d _ ahead
        simp only [decide_eq_true_eq, UInt16.lt_iff_toNat_lt] at ahead ⊢
        omega
      · refine ⟨c, mem, ?_, ?_⟩
        · simpa [UInt16.lt_iff_toNat_lt] using after
        · simp only [decide_eq_false_iff_not, UInt16.lt_iff_toNat_lt]
          omega
  · exact .inl rfl

namespace DatabaseBuilder

/-- The ranges that `n` calls of `NextDescriptorRangeToExplore` in a row return. -/
def exploreDescriptorRanges (b : DatabaseBuilder) : Nat → List (UInt16 × UInt16)
  | 0 => []
  | n + 1 =>
    b.nextDescriptorRangeToExplore.2 :: b.nextDescriptorRangeToExplore.1.exploreDescriptorRanges n

end DatabaseBuilder

/-- The exploration from a pending characteristic with at most `n` characteristics ahead: by
induction on `n`, each call that does not end leaves fewer ahead
(`nextDescriptorRangeToExplore_cases`). -/
theorem exploreDescriptorRanges_of_remaining {service : Service} (noWrap : NoWrap service) :
    ∀ (n : Nat) (b : DatabaseBuilder),
      findService b.database.services b.pendingService.1 = some service →
      remainingCharacteristics service b.pendingCharacteristic ≤ n →
      ∃ ranges : List (UInt16 × UInt16), ranges.length ≤ n ∧
        b.exploreDescriptorRanges (ranges.length + 1) = ranges ++ [exploreEnd] ∧
        (∀ r ∈ ranges, service.handle ≤ r.1 ∧ r.1 ≤ r.2 ∧ r.2 ≤ service.endHandle) ∧
        (∀ r ∈ ranges, b.pendingCharacteristic < r.1) ∧
        ranges.Pairwise fun r r' => r.1 < r'.1 := by
  intro n
  induction n with
  | zero =>
    intro b found ahead
    rcases nextDescriptorRangeToExplore_cases found noWrap with ended | ⟨_, -, -, -, -, -, fewer⟩
    · exact ⟨[], Nat.le_refl 0, by simp [DatabaseBuilder.exploreDescriptorRanges, ended],
        by simp, by simp, List.Pairwise.nil⟩
    · omega
  | succ n ih =>
    intro b found ahead
    rcases nextDescriptorRangeToExplore_cases found noWrap with
      ended | ⟨range, call, lo, nonEmpty, hi, after, fewer⟩
    · exact ⟨[], Nat.zero_le _, by simp [DatabaseBuilder.exploreDescriptorRanges, ended],
        by simp, by simp, List.Pairwise.nil⟩
    -- the next call starts from the range's start, in the same service
    obtain ⟨ranges, len, explored, inside, later, increasing⟩ :=
      ih { b with pendingCharacteristic := range.1 } found (by dsimp only; omega)
    refine ⟨range :: ranges, by simp; omega, ?_, ?_, ?_, ?_⟩
    · rw [List.length_cons, DatabaseBuilder.exploreDescriptorRanges, call]
      simp only [explored, List.cons_append]
    · intro r mem
      rcases List.mem_cons.mp mem with rfl | mem
      · exact ⟨lo, nonEmpty, hi⟩
      · exact inside r mem
    · intro r mem
      rcases List.mem_cons.mp mem with rfl | mem
      · exact after
      · have := later r mem
        rw [UInt16.lt_iff_toNat_lt] at this after ⊢
        dsimp only at this
        omega
    · exact List.Pairwise.cons (fun r mem => later r mem) increasing

/-- **Without wrap-around the exploration of a service ends**: at most one call per
characteristic returns a range, each non-empty, inside the service and starting past every
earlier one, and the call after them returns `EXPLORE_END`. -/
theorem exploreDescriptorRanges_ends {b : DatabaseBuilder} {service : Service}
    (found : findService b.database.services b.pendingService.1 = some service)
    (noWrap : NoWrap service) :
    ∃ ranges : List (UInt16 × UInt16), ranges.length ≤ service.characteristics.length ∧
      b.exploreDescriptorRanges (ranges.length + 1) = ranges ++ [exploreEnd] ∧
      (∀ r ∈ ranges, service.handle ≤ r.1 ∧ r.1 ≤ r.2 ∧ r.2 ≤ service.endHandle) ∧
      ranges.Pairwise fun r r' => r.1 < r'.1 := by
  obtain ⟨ranges, len, explored, inside, -, increasing⟩ :=
    exploreDescriptorRanges_of_remaining noWrap _ b found (List.countP_le_length)
  exact ⟨ranges, len, explored, inside, increasing⟩

/-- A service ending at `0xFFFF` whose only characteristic is declared at `0xFFFE`: from any
pending characteristic before it, the call returns `[0xFFFE + 2, 0xFFFF]`, which is
`[0, 0xFFFF]`, and moves the pending characteristic back to 0. -/
theorem nextDescriptorRangeToExplore_of_last_at_fffe {b : DatabaseBuilder} {service : Service}
    {c : Characteristic}
    (found : findService b.database.services b.pendingService.1 = some service)
    (only : service.characteristics = [c]) (declared : c.declarationHandle = 0xFFFE)
    (ends : service.endHandle = 0xFFFF) (before : b.pendingCharacteristic < 0xFFFE) :
    b.nextDescriptorRangeToExplore = ({ b with pendingCharacteristic := 0 }, (0, 0xFFFF)) := by
  unfold DatabaseBuilder.nextDescriptorRangeToExplore
  rw [found]
  simp [only, nextDescriptorRangeFrom, declared, ends, before]

/-- A service over `[0xFFF0, 0xFFFF]` whose one characteristic is declared at `0xFFFE`: the
descriptor range starts at `0xFFFE + 2`, which wraps to 0, so the range is `[0, 0xFFFF]`, not
inside the service, and the call after it finds the same characteristic again and returns the
same range from the same state, so exploration never reaches `EXPLORE_END`. -/
theorem nextDescriptorRangeToExplore_wraps (pendingService : UInt16 × UInt16)
    (pendingCharacteristic : UInt16) (descriptorHandlesToRead : List UInt16) (uuid : Uuid)
    (properties : UInt8) :
    let b₀ : DatabaseBuilder :=
      ⟨⟨[]⟩, pendingService, pendingCharacteristic, [], descriptorHandlesToRead⟩
    let b := (b₀.addService 0xFFF0 0xFFFF uuid true).addCharacteristic 0xFFFE 0xFFFF uuid
      properties
    let started := b.startNextServiceExploration
    let first := started.1.nextDescriptorRangeToExplore
    started.2 = true ∧ first.2 = (0, 0xFFFF) ∧ first.1.nextDescriptorRangeToExplore = first := by
  intro b₀ b started first
  let service : Service :=
    ⟨0xFFF0, uuid, true, 0xFFFF, [], [⟨0xFFFE, uuid, 0xFFFF, properties, []⟩]⟩
  have built : started =
      (⟨⟨[service]⟩, (0xFFF0, 0xFFFF), handleMin, [], descriptorHandlesToRead⟩, true) := by
    simp [started, b, b₀, service, DatabaseBuilder.addService, DatabaseBuilder.addCharacteristic,
      DatabaseBuilder.startNextServiceExploration, DatabaseBuilder.startNextServiceExplorationFrom,
      findServiceIdx, addServicePosition, setInsert]
  have found : findService started.1.database.services started.1.pendingService.1 =
      some service := by
    rw [built]
    simp [findService, service]
  have firstEq : first = ({ started.1 with pendingCharacteristic := 0 }, (0, 0xFFFF)) :=
    nextDescriptorRangeToExplore_of_last_at_fffe found rfl rfl rfl
      (by rw [built]; show handleMin < 0xFFFE; decide)
  refine ⟨by rw [built], by rw [firstEq], ?_⟩
  rw [firstEq]
  exact nextDescriptorRangeToExplore_of_last_at_fffe found rfl rfl rfl
    (show (0 : UInt16) < 0xFFFE by decide)

end Gatt

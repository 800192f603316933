import Fluoride.Common.LruRecency

/-!
# The metric id allocator (`common/metric_id_manager.cc`)

`MetricIdManager` gives every Bluetooth device it sees a small id in `[kMinId, kMaxId]` for
metrics. The ids of paired devices live in an LRU cache of 65000 entries, those of devices only
scanned in one of 200; `id_set_` holds the ids in use, and `next_id_` is where the search for a
free id starts. `Init` loads the ids saved for paired devices; `AllocateId` returns a device's
id, or gives it a new one; `SaveDevice` moves a device's id to the paired cache when it pairs;
`ForgetDevice` drops it when it is unpaired.

The callbacks are external. The model records each call of `save_id_callback_` and of
`forget_device_callback_`, in order, and takes what `save_id_callback_` answers from the function
`Init` is given. The mutex is not modelled: every call holds it for its whole body.

This module is the model and what each call does, case by case (§1, §2); the invariant of every
run and what follows from it are in `MetricIdManagerInv.lean`.
-/

namespace Common

open Storage

/-! ## §1 — the model -/

def kMaxNumUnpairedDevicesInMemory : Nat := 200

def kMaxNumPairedDevicesInMemory : Nat := 65000

def kMinId : Int := 1

def kMaxId : Int := 65534

theorem kMaxNumUnpairedDevicesInMemory_pos : 0 < kMaxNumUnpairedDevicesInMemory := by decide

theorem kMaxNumPairedDevicesInMemory_pos : 0 < kMaxNumPairedDevicesInMemory := by decide

/-- The allocator: the two caches, `id_set_`, `next_id_` and `initialized_`, what
`save_id_callback_` answers, and the calls made to the two callbacks, oldest first. -/
structure MetricIdManager (α : Type) where
  pairedDeviceCache : LruCache α Int
  temporaryDeviceCache : LruCache α Int
  idSet : Finset Int
  nextId : Int
  initialized : Bool
  saveIdCallback : α → Int → Bool
  saved : List (α × Int)
  forgotten : List (α × Int)

namespace MetricIdManager

/-- The constructor: two empty caches, `next_id_` at `kMinId`. The callbacks are empty until
`Init` sets them; no call made before `Init` is modelled. -/
def new {α : Type} : MetricIdManager α where
  pairedDeviceCache := LruCache.new kMaxNumPairedDevicesInMemory kMaxNumPairedDevicesInMemory_pos
  temporaryDeviceCache :=
    LruCache.new kMaxNumUnpairedDevicesInMemory kMaxNumUnpairedDevicesInMemory_pos
  idSet := ∅
  nextId := kMinId
  initialized := false
  saveIdCallback := fun _ _ => false
  saved := []
  forgotten := []

variable {α : Type} [DecidableEq α]

/-- `ForgetDevicePostprocess`: the id leaves `id_set_`, and `forget_device_callback_` is
called with the pair. -/
def forgetDevicePostprocess (m : MetricIdManager α) (macAddress : α) (id : Int) :
    MetricIdManager α :=
  { m with idSet := m.idSet.erase id, forgotten := m.forgotten ++ [(macAddress, id)] }

/-- `if (evicted) ForgetDevicePostprocess(evicted->first, evicted->second)`, after an insertion
into the paired cache. -/
def forgetEvicted (m : MetricIdManager α) : Option (α × Int) → MetricIdManager α
  | some (macAddress, id) => m.forgetDevicePostprocess macAddress id
  | none => m

/-- `if (evicted) this->id_set_.extract(evicted->second)`, after an insertion into the
temporary cache: the id leaves `id_set_`, and no callback is called. -/
def dropEvictedId (m : MetricIdManager α) : Option (α × Int) → MetricIdManager α
  | some (_, id) => { m with idSet := m.idSet.erase id }
  | none => m

/-- The loop of `Init` over the saved map, in the map's iteration order. An id out of range is
fatal (`none`). Each pair goes into the paired cache (an eviction is forgotten), its id into
`id_set_`, and `next_id_` past it. -/
def initLoop (m : MetricIdManager α) : List (α × Int) → Option (MetricIdManager α)
  | [] => some m
  | (macAddress, id) :: rest =>
    if id < kMinId ∨ id > kMaxId then none
    else
      let evicted := m.pairedDeviceCache.evictedNode macAddress
      let m := { m with pairedDeviceCache := m.pairedDeviceCache.insertOrAssign macAddress id }
      let m := m.forgetEvicted evicted
      initLoop { m with idSet := insert id m.idSet, nextId := max m.nextId (id + 1) } rest

/-- `Init(paired_device_map, save_id_callback, forget_device_callback)`: `none` when a
`log::fatal` stops the process (a map larger than the paired cache, an id out of range). -/
def init (m : MetricIdManager α) (pairedDeviceMap : List (α × Int))
    (saveIdCallback : α → Int → Bool) : Option (Bool × MetricIdManager α) :=
  if m.initialized then some (false, m)
  else if pairedDeviceMap.length > kMaxNumPairedDevicesInMemory then none
  else
    match initLoop { m with nextId := kMinId } pairedDeviceMap with
    | none => none
    | some m =>
      let m := if m.nextId > kMaxId then { m with nextId := kMinId } else m
      some (true, { m with saveIdCallback := saveIdCallback, initialized := true })

/-- `next_id_++`, back to `kMinId` past `kMaxId`. -/
def bumpId (id : Int) : Int := if id + 1 > kMaxId then kMinId else id + 1

/-- How many ids there are. -/
def kIdSpace : Nat := (kMaxId - kMinId + 1).toNat

/-- The loop `while (id_set_.count(next_id_) > 0)` of `AllocateId`, for at most `fuel` rounds:
the first id from `nextId` on that is not in `idSet`, or `none` when the `fuel` ids probed are
all taken. With `kIdSpace` rounds, `none` is a loop that never exits
(`probeNextId_eq_none_forever`). -/
def probeNextId (idSet : Finset Int) (nextId : Int) : Nat → Option Int
  | 0 => none
  | fuel + 1 => if nextId ∈ idSet then probeNextId idSet (bumpId nextId) fuel else some nextId

/-- `AllocateId(mac_address)`: the id the paired cache, then the temporary cache, holds for the
address, each lookup warming the entry up; otherwise the first free id from `next_id_` on, put
into the temporary cache. `none` is a probe loop that never exits. -/
def allocateId (m : MetricIdManager α) (macAddress : α) : Option (Int × MetricIdManager α) :=
  match m.pairedDeviceCache.find macAddress with
  | (some id, pairedDeviceCache) => some (id, { m with pairedDeviceCache })
  | (none, pairedDeviceCache) =>
    let m := { m with pairedDeviceCache }
    match m.temporaryDeviceCache.find macAddress with
    | (some id, temporaryDeviceCache) => some (id, { m with temporaryDeviceCache })
    | (none, temporaryDeviceCache) =>
      let m := { m with temporaryDeviceCache }
      match probeNextId m.idSet m.nextId kIdSpace with
      | none => none
      | some id =>
        let evicted := m.temporaryDeviceCache.evictedNode macAddress
        let m := { m with idSet := insert id m.idSet,
                          temporaryDeviceCache := m.temporaryDeviceCache.insertOrAssign macAddress id }
        let m := m.dropEvictedId evicted
        some (id, { m with nextId := bumpId id })

/-- `SaveDevice(mac_address)`: `true` at once for a paired address; an address the temporary
cache holds moves to the paired cache, which may evict (and forget) its oldest pair, and the
answer is `save_id_callback_`'s. -/
def saveDevice (m : MetricIdManager α) (macAddress : α) : Bool × MetricIdManager α :=
  match m.pairedDeviceCache.contains macAddress with
  | (true, pairedDeviceCache) => (true, { m with pairedDeviceCache })
  | (false, pairedDeviceCache) =>
    let m := { m with pairedDeviceCache }
    match m.temporaryDeviceCache.contains macAddress with
    | (false, temporaryDeviceCache) => (false, { m with temporaryDeviceCache })
    | (true, temporaryDeviceCache) =>
      let m := { m with temporaryDeviceCache }
      match m.temporaryDeviceCache.extract macAddress with
      | (none, temporaryDeviceCache) => (false, { m with temporaryDeviceCache })
      | (some id, temporaryDeviceCache) =>
        let m := { m with temporaryDeviceCache }
        let evicted := m.pairedDeviceCache.evictedNode macAddress
        let m := { m with pairedDeviceCache := m.pairedDeviceCache.insertOrAssign macAddress id }
        let m := m.forgetEvicted evicted
        (m.saveIdCallback macAddress id, { m with saved := m.saved ++ [(macAddress, id)] })

/-- `ForgetDevice(mac_address)`: the address's pair leaves the paired cache and is forgotten. -/
def forgetDevice (m : MetricIdManager α) (macAddress : α) : MetricIdManager α :=
  match m.pairedDeviceCache.extract macAddress with
  | (none, pairedDeviceCache) => { m with pairedDeviceCache }
  | (some id, pairedDeviceCache) =>
    { m with pairedDeviceCache }.forgetDevicePostprocess macAddress id

end MetricIdManager

/-- A call on the allocator after `Init`. -/
inductive MetricOp (α : Type) where
  | allocateId (macAddress : α)
  | saveDevice (macAddress : α)
  | forgetDevice (macAddress : α)
  deriving DecidableEq, Repr

/-- What a call returns; `hangs` is an `AllocateId` whose probe loop never exits. -/
inductive MetricReply where
  | id (id : Int)
  | saved (ok : Bool)
  | done
  | hangs
  deriving DecidableEq, Repr

namespace MetricIdManager

variable {α : Type} [DecidableEq α]

/-- One call on the allocator. -/
def step (m : MetricIdManager α) : MetricOp α → MetricReply × MetricIdManager α
  | .allocateId macAddress =>
    match m.allocateId macAddress with
    | some (id, m') => (.id id, m')
    | none => (.hangs, m)
  | .saveDevice macAddress => (.saved (m.saveDevice macAddress).1, (m.saveDevice macAddress).2)
  | .forgetDevice macAddress => (.done, m.forgetDevice macAddress)

/-! ## §2 — what each call does, case by case

One lemma per branch of a call, giving its result with the caches after their own calls; the
proofs about runs cite these and never unfold a call. -/

omit [DecidableEq α] in
/-- The eviction of an insertion into the paired cache, as sets and logs. -/
theorem forgetEvicted_eq (m : MetricIdManager α) (evicted : Option (α × Int)) :
    m.forgetEvicted evicted =
      { m with idSet := m.idSet \ (evicted.toList.map Prod.snd).toFinset,
               forgotten := m.forgotten ++ evicted.toList } := by
  cases evicted with
  | none => simp [forgetEvicted]
  | some e => simp [forgetEvicted, forgetDevicePostprocess, Finset.sdiff_singleton_eq_erase]

omit [DecidableEq α] in
/-- The eviction of an insertion into the temporary cache, as sets. -/
theorem dropEvictedId_eq (m : MetricIdManager α) (evicted : Option (α × Int)) :
    m.dropEvictedId evicted =
      { m with idSet := m.idSet \ (evicted.toList.map Prod.snd).toFinset } := by
  cases evicted with
  | none => simp [dropEvictedId]
  | some e => simp [dropEvictedId, Finset.sdiff_singleton_eq_erase]

section Branches

variable {m : MetricIdManager α} {a : α} {id : Int}

theorem allocateId_of_paired (found : m.pairedDeviceCache.listMap.find? a = some id) :
    m.allocateId a = some (id, { m with pairedDeviceCache := (m.pairedDeviceCache.find a).2 }) := by
  rw [allocateId, LruCache.find_eq_of_find?_eq_some found]

theorem allocateId_of_temporary (absent : m.pairedDeviceCache.listMap.find? a = none)
    (found : m.temporaryDeviceCache.listMap.find? a = some id) :
    m.allocateId a =
      some (id, { m with temporaryDeviceCache := (m.temporaryDeviceCache.find a).2 }) := by
  rw [allocateId, LruCache.find_eq_of_find?_eq_none absent]
  dsimp only
  rw [LruCache.find_eq_of_find?_eq_some found]

/-- A new address gets the id the probe finds, in the temporary cache; an evicted pair's id
leaves `id_set_`. -/
theorem allocateId_of_probe (absent : m.pairedDeviceCache.listMap.find? a = none)
    (absentTemporary : m.temporaryDeviceCache.listMap.find? a = none)
    (probe : probeNextId m.idSet m.nextId kIdSpace = some id) :
    m.allocateId a =
      some (id, { m with
        idSet := insert id m.idSet \
          ((m.temporaryDeviceCache.evictedNode a).toList.map Prod.snd).toFinset,
        temporaryDeviceCache := m.temporaryDeviceCache.insertOrAssign a id,
        nextId := bumpId id }) := by
  rw [allocateId, LruCache.find_eq_of_find?_eq_none absent]
  dsimp only
  rw [LruCache.find_eq_of_find?_eq_none absentTemporary]
  dsimp only
  rw [probe]
  dsimp only
  rw [dropEvictedId_eq]

theorem allocateId_of_probe_eq_none (absent : m.pairedDeviceCache.listMap.find? a = none)
    (absentTemporary : m.temporaryDeviceCache.listMap.find? a = none)
    (probe : probeNextId m.idSet m.nextId kIdSpace = none) : m.allocateId a = none := by
  rw [allocateId, LruCache.find_eq_of_find?_eq_none absent]
  dsimp only
  rw [LruCache.find_eq_of_find?_eq_none absentTemporary]
  dsimp only
  rw [probe]

theorem saveDevice_of_paired (found : m.pairedDeviceCache.listMap.find? a = some id) :
    m.saveDevice a = (true, { m with pairedDeviceCache := (m.pairedDeviceCache.find a).2 }) := by
  rw [saveDevice, LruCache.contains_eq_of_find?_eq_some found]

theorem saveDevice_of_absent (absent : m.pairedDeviceCache.listMap.find? a = none)
    (absentTemporary : m.temporaryDeviceCache.listMap.find? a = none) :
    m.saveDevice a = (false, m) := by
  rw [saveDevice, LruCache.contains_eq_of_find?_eq_none absent]
  dsimp only
  rw [LruCache.contains_eq_of_find?_eq_none absentTemporary]

/-- A scanned address moves its id to the paired cache; a pair the paired cache evicts is
forgotten. -/
theorem saveDevice_of_temporary (absent : m.pairedDeviceCache.listMap.find? a = none)
    (found : m.temporaryDeviceCache.listMap.find? a = some id) :
    m.saveDevice a =
      (m.saveIdCallback a id, { m with
        pairedDeviceCache := m.pairedDeviceCache.insertOrAssign a id,
        temporaryDeviceCache := ((m.temporaryDeviceCache.find a).2.extract a).2,
        idSet := m.idSet \ ((m.pairedDeviceCache.evictedNode a).toList.map Prod.snd).toFinset,
        forgotten := m.forgotten ++ (m.pairedDeviceCache.evictedNode a).toList,
        saved := m.saved ++ [(a, id)] }) := by
  -- the entry the lookup warmed up is the one `extract` takes out
  have extracted : (m.temporaryDeviceCache.find a).2.extract a =
      (some id, ((m.temporaryDeviceCache.find a).2.extract a).2) :=
    Prod.ext (by rw [LruCache.extract_fst, LruCache.find?_find, found]) rfl
  rw [saveDevice, LruCache.contains_eq_of_find?_eq_none absent]
  dsimp only
  rw [LruCache.contains_eq_of_find?_eq_some found]
  dsimp only
  rw [extracted]
  dsimp only
  rw [forgetEvicted_eq]

theorem forgetDevice_of_paired (found : m.pairedDeviceCache.listMap.find? a = some id) :
    m.forgetDevice a =
      { m with pairedDeviceCache := (m.pairedDeviceCache.extract a).2,
               idSet := m.idSet.erase id, forgotten := m.forgotten ++ [(a, id)] } := by
  have extracted : m.pairedDeviceCache.extract a = (some id, (m.pairedDeviceCache.extract a).2) :=
    Prod.ext found rfl
  rw [forgetDevice, extracted]
  rfl

theorem forgetDevice_of_absent (absent : m.pairedDeviceCache.listMap.find? a = none) :
    m.forgetDevice a = { m with pairedDeviceCache := (m.pairedDeviceCache.extract a).2 } := by
  have extracted : m.pairedDeviceCache.extract a = (none, (m.pairedDeviceCache.extract a).2) :=
    Prod.ext absent rfl
  rw [forgetDevice, extracted]

end Branches

end MetricIdManager

end Common

import Fluoride.Common.MetricIdManager
import Fluoride.Lib.Changes

/-!
# The invariant of the metric id allocator, and what follows from it

The pairs the two caches hold, paired first, are `held`; an address holds an id when one of
the caches maps it there. Between calls the allocator keeps its `Holdings`: no address and no
id twice over both caches, only valid ids, `id_set_` the set of ids held, and caches within
their capacities. Each call changes `held` by a reordering, one pair put in and one taken out
(`ListChange`), so one rule (`Holdings.change`) carries the holdings through every branch of
every call.

The probe loop of `AllocateId` walks the ids cyclically from `next_id_` (`bumpId_iterate`); it
exits within `kIdSpace` rounds as soon as one id is free, and since at most 65200 ids are held
out of 65534 one is (`exists_free_id`), as the `static_assert` of the source intends.

A pair that leaves the paired cache (evicted by `SaveDevice`, or taken out by `ForgetDevice`)
is reported to `forget_device_callback_` when it leaves, once (`forgotten_step`). A pair that
leaves the temporary cache, evicted by `AllocateId`, is not (`allocateId_evicts_without_report`).
-/

namespace Common

open Storage

namespace MetricIdManager

variable {α : Type} [DecidableEq α]

/-! ## §1 — what the caches hold -/

/-- The pairs the two caches hold, paired first. -/
def held (m : MetricIdManager α) : List (α × Int) :=
  m.pairedDeviceCache.listMap.entries ++ m.temporaryDeviceCache.listMap.entries

/-- An address holds an id when one of the caches maps it there. -/
def Holds (m : MetricIdManager α) (macAddress : α) (id : Int) : Prop :=
  m.pairedDeviceCache.listMap.find? macAddress = some id ∨
    m.temporaryDeviceCache.listMap.find? macAddress = some id

theorem holds_iff_mem_held {m : MetricIdManager α} {a : α} {id : Int} :
    m.Holds a id ↔ (a, id) ∈ m.held := by
  simp only [Holds, held, List.mem_append, InsertionMap.find?_eq_some_iff]

/-- What the allocator keeps between calls: caches within their capacities, no address and no id
held twice over both caches, only valid ids, and `id_set_` the set of ids held. -/
structure Holdings (m : MetricIdManager α) : Prop where
  paired_capacity : m.pairedDeviceCache.capacity = kMaxNumPairedDevicesInMemory
  temporary_capacity : m.temporaryDeviceCache.capacity = kMaxNumUnpairedDevicesInMemory
  paired_size : m.pairedDeviceCache.listMap.size ≤ kMaxNumPairedDevicesInMemory
  temporary_size : m.temporaryDeviceCache.listMap.size ≤ kMaxNumUnpairedDevicesInMemory
  addresses_nodup : (m.held.map Prod.fst).Nodup
  ids_nodup : (m.held.map Prod.snd).Nodup
  ids_valid : ∀ e ∈ m.held, kMinId ≤ e.2 ∧ e.2 ≤ kMaxId
  idSet_eq : m.idSet = (m.held.map Prod.snd).toFinset

/-- The invariant of every run after `Init`: the holdings, and `next_id_` a valid id. -/
structure Inv (m : MetricIdManager α) : Prop extends m.Holdings where
  nextId_valid : kMinId ≤ m.nextId ∧ m.nextId ≤ kMaxId

section Holdings

variable {m m' : MetricIdManager α}

omit [DecidableEq α] in
/-- A call that leaves the caches and `id_set_` as they were keeps the holdings. -/
theorem Holdings.of_caches (h : m.Holdings) (paired : m'.pairedDeviceCache = m.pairedDeviceCache)
    (temporary : m'.temporaryDeviceCache = m.temporaryDeviceCache) (idSet : m'.idSet = m.idSet) :
    m'.Holdings := by
  have same : m'.held = m.held := by rw [held, held, paired, temporary]
  exact ⟨paired ▸ h.paired_capacity, temporary ▸ h.temporary_capacity, paired ▸ h.paired_size,
    temporary ▸ h.temporary_size, same ▸ h.addresses_nodup, same ▸ h.ids_nodup,
    same ▸ h.ids_valid, by rw [idSet, same, h.idSet_eq]⟩

/-- An address nobody holds, put in front of what is held, is held once. -/
theorem nodup_addresses_cons (h : m.Holdings) {e : α × Int} (fresh : ∀ i, ¬m.Holds e.1 i) :
    ((e :: m.held).map Prod.fst).Nodup := by
  refine List.nodup_cons.2 ⟨fun mem => ?_, h.addresses_nodup⟩
  obtain ⟨e', held', same⟩ := List.mem_map.1 mem
  exact fresh e'.2 (holds_iff_mem_held.2 (by rw [← same]; exact held'))

omit [DecidableEq α] in
/-- An id not in `id_set_`, put in front of what is held, is held once. -/
theorem nodup_ids_cons (h : m.Holdings) {e : α × Int} (fresh : e.2 ∉ m.idSet) :
    ((e :: m.held).map Prod.snd).Nodup := by
  refine List.nodup_cons.2 ⟨fun mem => fresh ?_, h.ids_nodup⟩
  rw [h.idSet_eq]
  exact List.mem_toFinset.2 mem

/-- **The holdings rule.** A call that changes what the caches hold by putting in a pair (of an
address nobody holds and a valid id not in `id_set_`) and taking one out, keeps the capacities
and sizes, and updates `id_set_` to match, keeps the holdings. -/
theorem Holdings.change (h : m.Holdings) (added removed : Option (α × Int))
    (change : ListChange m.held m'.held added.toList removed.toList)
    (paired_capacity : m'.pairedDeviceCache.capacity = m.pairedDeviceCache.capacity)
    (temporary_capacity : m'.temporaryDeviceCache.capacity = m.temporaryDeviceCache.capacity)
    (paired_size : m'.pairedDeviceCache.listMap.size ≤ m'.pairedDeviceCache.capacity)
    (temporary_size : m'.temporaryDeviceCache.listMap.size ≤ m'.temporaryDeviceCache.capacity)
    (fresh : ∀ e ∈ added, (∀ i, ¬m.Holds e.1 i) ∧ e.2 ∉ m.idSet ∧ kMinId ≤ e.2 ∧ e.2 ≤ kMaxId)
    (idSet : m'.idSet =
      ((added.toList ++ m.held).map Prod.snd).toFinset \ (removed.toList.map Prod.snd).toFinset) :
    m'.Holdings := by
  -- what is held after the call, with what it took out, was held or put in, once each
  have addresses : ((added.toList ++ m.held).map Prod.fst).Nodup := by
    cases added with
    | none => exact h.addresses_nodup
    | some e => exact nodup_addresses_cons h (fresh e rfl).1
  have ids : ((added.toList ++ m.held).map Prod.snd).Nodup := by
    cases added with
    | none => exact h.ids_nodup
    | some e => exact nodup_ids_cons h (fresh e rfl).2.1
  rw [List.map_append] at addresses ids
  refine ⟨paired_capacity.trans h.paired_capacity, temporary_capacity.trans h.temporary_capacity,
    paired_size.trans_eq (paired_capacity.trans h.paired_capacity),
    temporary_size.trans_eq (temporary_capacity.trans h.temporary_capacity),
    (change.map Prod.fst).nodup_left addresses, (change.map Prod.snd).nodup_left ids, ?_, ?_⟩
  · intro e mem
    rcases change.mem mem with put | kept
    · exact (fresh e (Option.mem_toList.1 put)).2.2
    · exact h.ids_valid e kept
  · rw [idSet, (change.map Prod.snd).toFinset_eq ids, List.map_append]

end Holdings

/-! ## §2 — the probe loop

The probe walks the ids cyclically: the `i`-th id it looks at is `i` places after `next_id_`
in `[kMinId, kMaxId]`, wrapping (`bumpId_iterate`). So within `kIdSpace` rounds it looks at
every id, and a loop that has not exited by then never does. -/

theorem kIdSpace_eq : kIdSpace = 65534 := rfl

/-- The `i`-th id the probe looks at. -/
theorem bumpId_iterate {n : Int} (valid : kMinId ≤ n ∧ n ≤ kMaxId) (i : Nat) :
    bumpId^[i] n = 1 + (n - 1 + i) % 65534 := by
  unfold kMinId kMaxId at valid
  induction i with
  | zero =>
    show n = 1 + (n - 1 + 0) % 65534
    omega
  | succ i ih =>
    rw [Function.iterate_succ_apply', ih]
    unfold bumpId kMinId kMaxId
    split_ifs <;> omega

theorem bumpId_iterate_valid {n : Int} (valid : kMinId ≤ n ∧ n ≤ kMaxId) (i : Nat) :
    kMinId ≤ bumpId^[i] n ∧ bumpId^[i] n ≤ kMaxId := by
  rw [bumpId_iterate valid]
  unfold kMinId kMaxId
  omega

/-- Every valid id is one of the first `kIdSpace` the probe looks at. -/
theorem exists_bumpId_iterate {n x : Int} (valid : kMinId ≤ n ∧ n ≤ kMaxId)
    (validId : kMinId ≤ x ∧ x ≤ kMaxId) : ∃ i < kIdSpace, bumpId^[i] n = x := by
  refine ⟨((x - n) % 65534).toNat, ?_, ?_⟩
  · rw [kIdSpace_eq]
    omega
  · rw [bumpId_iterate valid]
    unfold kMinId kMaxId at valid validId
    omega

theorem probeNextId_eq_some {s : Finset Int} {n r : Int} {fuel : Nat}
    (probe : probeNextId s n fuel = some r) : r ∉ s ∧ ∃ i < fuel, bumpId^[i] n = r := by
  induction fuel generalizing n with
  | zero => cases probe
  | succ fuel ih =>
    rw [probeNextId] at probe
    split_ifs at probe with taken
    · obtain ⟨free, i, lt, reached⟩ := ih probe
      exact ⟨free, i + 1, by omega, reached⟩
    · obtain rfl := Option.some.inj probe
      exact ⟨taken, 0, by omega, rfl⟩

theorem probeNextId_eq_none_iff {s : Finset Int} {n : Int} {fuel : Nat} :
    probeNextId s n fuel = none ↔ ∀ i < fuel, bumpId^[i] n ∈ s := by
  induction fuel generalizing n with
  | zero => simp [probeNextId]
  | succ fuel ih =>
    rw [probeNextId]
    by_cases taken : n ∈ s
    · -- the loop goes on from the next id
      rw [if_pos taken, ih]
      constructor
      · intro later i lt
        cases i with
        | zero => exact taken
        | succ i => exact later i (by omega)
      · exact fun all i lt => all (i + 1) (by omega)
    · rw [if_neg taken]
      exact ⟨nofun, fun all => absurd (all 0 (by omega)) taken⟩

/-- **The loop never exits** once `kIdSpace` rounds found no free id: every id it will look at
is taken. So `none` of `allocateId` is an `AllocateId` that does not return. -/
theorem probeNextId_eq_none_forever {s : Finset Int} {n : Int} (valid : kMinId ≤ n ∧ n ≤ kMaxId)
    (probe : probeNextId s n kIdSpace = none) (i : Nat) : bumpId^[i] n ∈ s := by
  obtain ⟨j, lt, same⟩ := exists_bumpId_iterate valid (bumpId_iterate_valid valid i)
  exact same ▸ probeNextId_eq_none_iff.1 probe j lt

/-- The probe finds an id as soon as one valid id is free. -/
theorem probeNextId_isSome {s : Finset Int} {n : Int} (valid : kMinId ≤ n ∧ n ≤ kMaxId)
    {x : Int} (validId : kMinId ≤ x ∧ x ≤ kMaxId) (free : x ∉ s) :
    ∃ r, probeNextId s n kIdSpace = some r := by
  cases probe : probeNextId s n kIdSpace with
  | some r => exact ⟨r, rfl⟩
  | none =>
    obtain ⟨i, -, reached⟩ := exists_bumpId_iterate valid validId
    exact absurd (reached ▸ probeNextId_eq_none_forever valid probe i) free

omit [DecidableEq α] in
/-- **A valid id is free.** At most `65000 + 200` ids are held, fewer than the `65534` valid
ones. -/
theorem exists_free_id {m : MetricIdManager α} (h : m.Holdings) :
    ∃ x, (kMinId ≤ x ∧ x ≤ kMaxId) ∧ x ∉ m.idSet := by
  have few : m.idSet.card < (Finset.Icc kMinId kMaxId).card := by
    rw [h.idSet_eq, Int.card_Icc]
    calc (m.held.map Prod.snd).toFinset.card
        ≤ (m.held.map Prod.snd).length := List.toFinset_card_le _
      _ = m.pairedDeviceCache.listMap.size + m.temporaryDeviceCache.listMap.size := by
        simp [held, InsertionMap.size]
      _ ≤ kMaxNumPairedDevicesInMemory + kMaxNumUnpairedDevicesInMemory :=
        Nat.add_le_add h.paired_size h.temporary_size
      _ < (kMaxId + 1 - kMinId).toNat := by decide
  obtain ⟨x, inRange, free⟩ := Finset.exists_mem_notMem_of_card_lt_card few
  exact ⟨x, Finset.mem_Icc.1 inRange, free⟩

/-! ## §3 — every call keeps the invariant

Per branch of a call, the branch lemma of `MetricIdManager.lean` gives the state after it, the
caches' change lemmas what they then hold, and `Holdings.change` the holdings. -/

section Calls

variable {m : MetricIdManager α} {a : α}

omit [DecidableEq α] in
theorem Holdings.paired_within (h : m.Holdings) :
    m.pairedDeviceCache.listMap.size ≤ m.pairedDeviceCache.capacity :=
  h.paired_size.trans_eq h.paired_capacity.symm

omit [DecidableEq α] in
theorem Holdings.temporary_within (h : m.Holdings) :
    m.temporaryDeviceCache.listMap.size ≤ m.temporaryDeviceCache.capacity :=
  h.temporary_size.trans_eq h.temporary_capacity.symm

/-- An address neither cache maps holds nothing. -/
theorem not_holds_of_absent (absent : m.pairedDeviceCache.listMap.find? a = none)
    (absentTemporary : m.temporaryDeviceCache.listMap.find? a = none) (i : Int) :
    ¬m.Holds a i := by
  rintro (found | found)
  · rw [absent] at found
    cases found
  · rw [absentTemporary] at found
    cases found

/-- A lookup that warms up an entry of the paired cache keeps the holdings. -/
theorem Holdings.find_paired (h : m.Holdings) :
    ({ m with pairedDeviceCache := (m.pairedDeviceCache.find a).2 } : MetricIdManager α).Holdings :=
  h.change none none
    ((LruCache.change_find _ a).append (ListChange.refl _)) rfl rfl
    (by simpa using h.paired_within) h.temporary_within (fun _ put => nomatch put)
    (by simp [h.idSet_eq])

/-- A lookup that warms up an entry of the temporary cache keeps the holdings. -/
theorem Holdings.find_temporary (h : m.Holdings) :
    ({ m with temporaryDeviceCache := (m.temporaryDeviceCache.find a).2 } :
      MetricIdManager α).Holdings :=
  h.change none none
    ((ListChange.refl _).append (LruCache.change_find _ a)) rfl rfl
    h.paired_within (by simpa using h.temporary_within) (fun _ put => nomatch put)
    (by simp [h.idSet_eq])

/-- `AllocateId` keeps the invariant. -/
theorem inv_allocateId (inv : m.Inv) {id : Int} {m' : MetricIdManager α}
    (result : m.allocateId a = some (id, m')) : m'.Inv := by
  cases found : m.pairedDeviceCache.listMap.find? a with
  | some i =>
    rw [allocateId_of_paired found] at result
    obtain ⟨-, rfl⟩ := Prod.mk.inj (Option.some.inj result)
    exact ⟨inv.find_paired, inv.nextId_valid⟩
  | none =>
    cases foundTemporary : m.temporaryDeviceCache.listMap.find? a with
    | some i =>
      rw [allocateId_of_temporary found foundTemporary] at result
      obtain ⟨-, rfl⟩ := Prod.mk.inj (Option.some.inj result)
      exact ⟨inv.find_temporary, inv.nextId_valid⟩
    | none =>
      cases probe : probeNextId m.idSet m.nextId kIdSpace with
      | none =>
        rw [allocateId_of_probe_eq_none found foundTemporary probe] at result
        cases result
      | some j =>
        rw [allocateId_of_probe found foundTemporary probe] at result
        obtain ⟨rfl, rfl⟩ := Prod.mk.inj (Option.some.inj result)
        -- the probe found a free valid id, and the address is new
        obtain ⟨free, i, -, reached⟩ := probeNextId_eq_some probe
        have validId := reached ▸ bumpId_iterate_valid inv.nextId_valid i
        refine ⟨inv.change (some (a, j)) (m.temporaryDeviceCache.evictedNode a)
          ((ListChange.refl _).append (LruCache.change_insertOrAssign foundTemporary j)) rfl
          (LruCache.capacity_insertOrAssign _ _ _) inv.paired_within ?_ ?_ ?_, ?_⟩
        · rw [LruCache.capacity_insertOrAssign]
          exact LruCache.size_insertOrAssign_le a j inv.temporary_within
        · intro e put
          obtain rfl := Option.some.inj put
          exact ⟨not_holds_of_absent found foundTemporary, free, validId⟩
        · show insert j m.idSet \ _ = _
          rw [inv.idSet_eq]
          simp
        · exact bumpId_iterate_valid validId 1

/-- `SaveDevice` keeps the invariant. -/
theorem inv_saveDevice (inv : m.Inv) (a : α) : (m.saveDevice a).2.Inv := by
  cases found : m.pairedDeviceCache.listMap.find? a with
  | some i =>
    rw [saveDevice_of_paired found]
    exact ⟨inv.find_paired, inv.nextId_valid⟩
  | none =>
    cases foundTemporary : m.temporaryDeviceCache.listMap.find? a with
    | none =>
      rw [saveDevice_of_absent found foundTemporary]
      exact inv
    | some id =>
      rw [saveDevice_of_temporary found foundTemporary]
      -- the pair moves from the temporary cache to the paired cache, which may evict one
      have moved : ListChange m.temporaryDeviceCache.listMap.entries
          ((m.temporaryDeviceCache.find a).2.extract a).2.listMap.entries [] [(a, id)] := by
        have both := (LruCache.change_find m.temporaryDeviceCache a).trans
          (LruCache.change_extract (m.temporaryDeviceCache.find a).2 a)
        rw [LruCache.find?_find, foundTemporary] at both
        exact both
      have both : ListChange m.held
          ((m.pairedDeviceCache.insertOrAssign a id).listMap.entries ++
            ((m.temporaryDeviceCache.find a).2.extract a).2.listMap.entries)
          [(a, id)] ((m.pairedDeviceCache.evictedNode a).toList ++ [(a, id)]) :=
        (LruCache.change_insertOrAssign found id).append moved
      have net := both.cancel
      rw [List.append_nil] at net
      refine ⟨inv.change none (m.pairedDeviceCache.evictedNode a) net
        (LruCache.capacity_insertOrAssign _ _ _) rfl ?_ ?_ (fun _ put => nomatch put) ?_,
        inv.nextId_valid⟩
      · rw [LruCache.capacity_insertOrAssign]
        exact LruCache.size_insertOrAssign_le a id inv.paired_within
      · calc ((m.temporaryDeviceCache.find a).2.extract a).2.listMap.size
            ≤ (m.temporaryDeviceCache.find a).2.listMap.size := LruCache.size_extract_le _ _
          _ = m.temporaryDeviceCache.listMap.size := LruCache.size_find _ _
          _ ≤ m.temporaryDeviceCache.capacity := inv.temporary_within
      · show m.idSet \ _ = _
        rw [inv.idSet_eq]
        rfl

/-- `ForgetDevice` keeps the invariant. -/
theorem inv_forgetDevice (inv : m.Inv) (a : α) : (m.forgetDevice a).Inv := by
  have taken := LruCache.change_extract m.pairedDeviceCache a
  cases found : m.pairedDeviceCache.listMap.find? a with
  | none =>
    rw [forgetDevice_of_absent found]
    rw [found] at taken
    refine ⟨inv.change none none (taken.append (ListChange.refl _)) rfl rfl
      ((LruCache.size_extract_le _ _).trans inv.paired_within) inv.temporary_within
      (fun _ put => nomatch put) (by simp [inv.idSet_eq]), inv.nextId_valid⟩
  | some id =>
    rw [forgetDevice_of_paired found]
    rw [found] at taken
    refine ⟨inv.change none (some (a, id)) (taken.append (ListChange.refl _))
      rfl rfl ((LruCache.size_extract_le _ _).trans inv.paired_within) inv.temporary_within
      (fun _ put => nomatch put) ?_, inv.nextId_valid⟩
    show m.idSet.erase id = _
    rw [inv.idSet_eq]
    simp [Finset.sdiff_singleton_eq_erase]

/-- **Every call keeps the invariant.** -/
theorem inv_step (inv : m.Inv) (op : MetricOp α) : (m.step op).2.Inv := by
  cases op with
  | allocateId a =>
    cases result : m.allocateId a with
    | none => simpa [step, result] using inv
    | some r =>
      simp only [step, result]
      exact inv_allocateId inv result
  | saveDevice a => exact inv_saveDevice inv a
  | forgetDevice a => exact inv_forgetDevice inv a

end Calls

/-! ## §4 — what is reported to `forget_device_callback_`

A call reports the pairs it takes out of the paired cache, and only those; since each call takes
out at most one, the log of reports grows by the list of pairs the paired cache held before the
call and not after it (`pairedLeft`), whatever the call. -/

/-- The pairs the paired cache held before a call and does not hold after it. -/
def pairedLeft (m m' : MetricIdManager α) : List (α × Int) :=
  m.pairedDeviceCache.listMap.entries.filter fun e => e ∉ m'.pairedDeviceCache.listMap.entries

section Reports

variable {m : MetricIdManager α} {a : α}

theorem pairedLeft_of_nil {m' : MetricIdManager α} {added : List (α × Int)}
    (change : ListChange m.pairedDeviceCache.listMap.entries m'.pairedDeviceCache.listMap.entries
      added []) : pairedLeft m m' = [] := by
  unfold pairedLeft
  exact change.filter_not_mem_of_nil fun e => by simp

theorem pairedLeft_find_paired :
    pairedLeft m { m with pairedDeviceCache := (m.pairedDeviceCache.find a).2 } = [] :=
  pairedLeft_of_nil (LruCache.change_find _ a)

/-- A call that leaves the paired cache and the log as they were reports nothing. -/
theorem forgotten_of_paired_eq {m' : MetricIdManager α}
    (same : m'.pairedDeviceCache = m.pairedDeviceCache) (kept : m'.forgotten = m.forgotten) :
    m'.forgotten = m.forgotten ++ pairedLeft m m' := by
  have nothingLeft : pairedLeft m m' = [] :=
    pairedLeft_of_nil (by rw [same]; exact ListChange.refl _)
  rw [nothingLeft, List.append_nil, kept]

omit [DecidableEq α] in
theorem nodup_entries (c : LruCache α Int) : c.listMap.entries.Nodup :=
  List.Nodup.of_map Prod.fst c.listMap.nodup

/-- `AllocateId` reports nothing, and takes nothing out of the paired cache. -/
theorem forgotten_allocateId {id : Int} {m' : MetricIdManager α}
    (result : m.allocateId a = some (id, m')) :
    m'.forgotten = m.forgotten ++ pairedLeft m m' := by
  cases found : m.pairedDeviceCache.listMap.find? a with
  | some i =>
    rw [allocateId_of_paired found] at result
    obtain ⟨-, rfl⟩ := Prod.mk.inj (Option.some.inj result)
    rw [pairedLeft_find_paired, List.append_nil]
  | none =>
    cases foundTemporary : m.temporaryDeviceCache.listMap.find? a with
    | some i =>
      rw [allocateId_of_temporary found foundTemporary] at result
      obtain ⟨-, rfl⟩ := Prod.mk.inj (Option.some.inj result)
      exact forgotten_of_paired_eq rfl rfl
    | none =>
      cases probe : probeNextId m.idSet m.nextId kIdSpace with
      | none =>
        rw [allocateId_of_probe_eq_none found foundTemporary probe] at result
        cases result
      | some j =>
        rw [allocateId_of_probe found foundTemporary probe] at result
        obtain ⟨-, rfl⟩ := Prod.mk.inj (Option.some.inj result)
        exact forgotten_of_paired_eq rfl rfl

/-- `SaveDevice` reports the pair the paired cache evicts, if it evicts one. -/
theorem forgotten_saveDevice (a : α) :
    (m.saveDevice a).2.forgotten = m.forgotten ++ pairedLeft m (m.saveDevice a).2 := by
  cases found : m.pairedDeviceCache.listMap.find? a with
  | some i =>
    rw [saveDevice_of_paired found, pairedLeft_find_paired, List.append_nil]
  | none =>
    cases foundTemporary : m.temporaryDeviceCache.listMap.find? a with
    | none =>
      rw [saveDevice_of_absent found foundTemporary]
      exact forgotten_of_paired_eq rfl rfl
    | some id =>
      rw [saveDevice_of_temporary found foundTemporary]
      have change := LruCache.change_insertOrAssign found id
      -- the pair put in is new to the paired cache, so what left it is what was evicted
      have fresh : ((a, id) :: m.pairedDeviceCache.listMap.entries).Nodup := by
        refine List.nodup_cons.2 ⟨fun held => ?_, nodup_entries _⟩
        rw [← InsertionMap.find?_eq_some_iff, found] at held
        cases held
      show m.forgotten ++ _ = m.forgotten ++ pairedLeft m _
      congr 1
      unfold pairedLeft
      dsimp only
      cases evicted : m.pairedDeviceCache.evictedNode a with
      | none =>
        rw [evicted] at change
        exact (change.filter_not_mem_of_nil fun e => by simp).symm
      | some e =>
        rw [evicted] at change
        exact (change.filter_not_mem_of_single fresh (LruCache.mem_of_evictedNode evicted)
          fun e => by simp).symm

/-- `ForgetDevice` reports the pair it takes out. -/
theorem forgotten_forgetDevice (a : α) :
    (m.forgetDevice a).forgotten = m.forgotten ++ pairedLeft m (m.forgetDevice a) := by
  have taken := LruCache.change_extract m.pairedDeviceCache a
  cases found : m.pairedDeviceCache.listMap.find? a with
  | none =>
    rw [found] at taken
    rw [forgetDevice_of_absent found, pairedLeft_of_nil taken, List.append_nil]
  | some id =>
    rw [found] at taken
    rw [forgetDevice_of_paired found]
    show m.forgotten ++ _ = m.forgotten ++ _
    congr 1
    exact (taken.filter_not_mem_of_single (nodup_entries _)
      (InsertionMap.find?_eq_some_iff.1 found) fun e => by simp).symm

/-- **Every call reports exactly the pairs it takes out of the paired cache.** -/
theorem forgotten_step (op : MetricOp α) :
    (m.step op).2.forgotten = m.forgotten ++ pairedLeft m (m.step op).2 := by
  cases op with
  | allocateId a =>
    cases result : m.allocateId a with
    | none =>
      simp only [step, result]
      exact forgotten_of_paired_eq rfl rfl
    | some r =>
      simp only [step, result]
      exact forgotten_allocateId result
  | saveDevice a => exact forgotten_saveDevice a
  | forgetDevice a => exact forgotten_forgetDevice a

end Reports

/-! ## §5 — `Init`

The loop of `Init` over a saved map of new addresses and new valid ids that fits in the paired
cache puts every pair into the paired cache without an eviction, so it keeps the holdings and
forgets nothing (`initLoop_spec`, by induction on the map's pairs). -/

omit [DecidableEq α] in
theorem holdings_new : ({ (new : MetricIdManager α) with nextId := kMinId }).Holdings where
  paired_capacity := rfl
  temporary_capacity := rfl
  paired_size := Nat.zero_le _
  temporary_size := Nat.zero_le _
  addresses_nodup := List.nodup_nil
  ids_nodup := List.nodup_nil
  ids_valid := fun _ held => nomatch held
  idSet_eq := rfl

omit [DecidableEq α] in
theorem held_new : ({ (new : MetricIdManager α) with nextId := kMinId }).held = [] := rfl

theorem initLoop_spec {m : MetricIdManager α} (h : m.Holdings)
    (next : kMinId ≤ m.nextId ∧ m.nextId ≤ kMaxId + 1) {l : List (α × Int)}
    (addresses : ((l ++ m.held).map Prod.fst).Nodup) (ids : ((l ++ m.held).map Prod.snd).Nodup)
    (valid : ∀ p ∈ l, kMinId ≤ p.2 ∧ p.2 ≤ kMaxId)
    (fits : m.pairedDeviceCache.listMap.size + l.length ≤ kMaxNumPairedDevicesInMemory) :
    ∃ m', m.initLoop l = some m' ∧ m'.Holdings ∧ (kMinId ≤ m'.nextId ∧ m'.nextId ≤ kMaxId + 1) ∧
      m'.forgotten = m.forgotten := by
  induction l generalizing m with
  | nil => exact ⟨m, rfl, h, next, rfl⟩
  | cons p rest ih =>
    obtain ⟨a, id⟩ := p
    obtain ⟨lo, hi⟩ := valid (a, id) List.mem_cons_self
    rw [List.cons_append, List.map_cons, List.nodup_cons] at addresses ids
    -- the address is new to the paired cache, which has room, so nothing is evicted
    have newAddress : ∀ i, ¬m.Holds a i := fun i held =>
      addresses.1 (List.mem_map.2 ⟨(a, i), List.mem_append_right _ (holds_iff_mem_held.1 held), rfl⟩)
    have newId : id ∉ m.idSet := fun taken => by
      rw [h.idSet_eq, List.mem_toFinset] at taken
      exact ids.1 (by rw [List.map_append]; exact List.mem_append_right _ taken)
    have absent : m.pairedDeviceCache.listMap.find? a = none := by
      cases found : m.pairedDeviceCache.listMap.find? a with
      | none => rfl
      | some i => exact absurd (Or.inl found) (newAddress i)
    have room : m.pairedDeviceCache.listMap.size < m.pairedDeviceCache.capacity := by
      rw [h.paired_capacity]
      simp only [List.length_cons] at fits
      omega
    rw [initLoop, if_neg (by omega)]
    dsimp only
    rw [LruCache.evictedNode_of_lt room]
    set m1 : MetricIdManager α := { m with
      pairedDeviceCache := m.pairedDeviceCache.insertOrAssign a id, idSet := insert id m.idSet,
      nextId := max m.nextId (id + 1) } with hm1
    have change : ListChange m.held m1.held (some (a, id)).toList none.toList := by
      have both := (LruCache.change_insertOrAssign absent id).append
        (ListChange.refl m.temporaryDeviceCache.listMap.entries)
      rw [LruCache.evictedNode_of_lt room] at both
      exact both
    have h1 : m1.Holdings := h.change (some (a, id)) none change
      (LruCache.capacity_insertOrAssign _ _ _) rfl
      (by rw [LruCache.capacity_insertOrAssign]
          exact LruCache.size_insertOrAssign_le a id h.paired_within)
      h.temporary_within (fun e put => by
        obtain rfl := Option.some.inj put
        exact ⟨newAddress, newId, lo, hi⟩)
      (by show insert id m.idSet = _; rw [h.idSet_eq]; simp)
    -- the pairs still to come, with those now held, are those before the step
    have settled : m1.held.Perm ((a, id) :: m.held) := by
      simpa only [ListChange, Option.toList_some, Option.toList_none, List.append_nil,
        List.singleton_append] using change
    have regrouped : (rest ++ m1.held).Perm ((a, id) :: (rest ++ m.held)) :=
      (settled.append_left rest).trans List.perm_middle
    have nextId1 : m1.nextId = max m.nextId (id + 1) := rfl
    have grown : m1.pairedDeviceCache.listMap.size = m.pairedDeviceCache.listMap.size + 1 := by
      have lengths := (LruCache.change_insertOrAssign absent id).length_eq
      rw [LruCache.evictedNode_of_lt room] at lengths
      simpa [InsertionMap.size, Nat.add_comm] using lengths
    obtain ⟨m', loop, h', next', kept⟩ := ih h1 ⟨by omega, by omega⟩
      ((regrouped.map Prod.fst).nodup_iff.2 (List.nodup_cons.2 addresses))
      ((regrouped.map Prod.snd).nodup_iff.2 (List.nodup_cons.2 ids))
      (fun p mem => valid p (List.mem_cons_of_mem _ mem))
      (by rw [grown]; simp only [List.length_cons] at fits; omega)
    exact ⟨m', loop, h', next', kept⟩

/-- `Init` on a constructed allocator, with a saved map of distinct addresses and distinct
valid ids that fits in the paired cache, succeeds, keeps the invariant and forgets nothing. -/
theorem init_new (saveIdCallback : α → Int → Bool) {l : List (α × Int)}
    (addresses : (l.map Prod.fst).Nodup) (ids : (l.map Prod.snd).Nodup)
    (valid : ∀ p ∈ l, kMinId ≤ p.2 ∧ p.2 ≤ kMaxId) (fits : l.length ≤ kMaxNumPairedDevicesInMemory) :
    ∃ m₀, (new : MetricIdManager α).init l saveIdCallback = some (true, m₀) ∧ m₀.Inv ∧
      m₀.forgotten = [] := by
  obtain ⟨m', loop, h', next', kept⟩ := initLoop_spec holdings_new
    ⟨Int.le_refl _, show kMinId ≤ kMaxId + 1 by decide⟩
    (by rw [held_new, List.append_nil]; exact addresses) (by rw [held_new, List.append_nil]; exact ids)
    valid (show 0 + l.length ≤ kMaxNumPairedDevicesInMemory by omega)
  refine ⟨{ (if m'.nextId > kMaxId then { m' with nextId := kMinId } else m') with
      saveIdCallback := saveIdCallback, initialized := true }, ?_, ?_, ?_⟩
  · dsimp only at loop
    rw [init, if_neg (show ¬(new : MetricIdManager α).initialized = true from Bool.false_ne_true),
      if_neg (Nat.not_lt.2 fits), loop]
  · -- past `kMaxId`, `next_id_` goes back to `kMinId`
    by_cases wrap : m'.nextId > kMaxId
    · rw [if_pos wrap]
      exact ⟨h'.of_caches rfl rfl rfl, show kMinId ≤ kMinId ∧ kMinId ≤ kMaxId by decide⟩
    · rw [if_neg wrap]
      exact ⟨h'.of_caches rfl rfl rfl,
        show kMinId ≤ m'.nextId ∧ m'.nextId ≤ kMaxId from ⟨next'.1, by omega⟩⟩
  · split_ifs <;> exact kept

/-! ## §6 — every run after `Init` -/

/-- What every state of a run keeps: the two caches hold disjoint addresses, every id held is
valid and held by one address, `id_set_` is the set of ids held, and `AllocateId` returns
the address's id, or an id nobody held, which the address then holds. -/
structure Spec (m : MetricIdManager α) : Prop where
  disjoint : ∀ a i j, m.pairedDeviceCache.listMap.find? a = some i →
    m.temporaryDeviceCache.listMap.find? a ≠ some j
  ids_valid : ∀ a id, m.Holds a id → kMinId ≤ id ∧ id ≤ kMaxId
  ids_distinct : ∀ a b id, m.Holds a id → m.Holds b id → a = b
  idSet_eq : ∀ id, id ∈ m.idSet ↔ ∃ a, m.Holds a id
  allocateId_returns : ∀ a, ∃ id m', m.allocateId a = some (id, m') ∧ m'.Holds a id ∧
    (∀ i, m.Holds a i → id = i) ∧ ((∀ i, ¬m.Holds a i) → ∀ b, ¬m.Holds b id)

section Spec

variable {m : MetricIdManager α}

/-- An address holds one id. -/
theorem Holdings.id_unique (h : m.Holdings) {a : α} {i j : Int} (first : m.Holds a i)
    (second : m.Holds a j) : i = j := by
  have same := List.inj_on_of_nodup_map h.addresses_nodup (holds_iff_mem_held.1 first)
    (holds_iff_mem_held.1 second) rfl
  exact (Prod.mk.inj same).2

/-- An id is held by one address. -/
theorem Holdings.address_unique (h : m.Holdings) {a b : α} {id : Int} (first : m.Holds a id)
    (second : m.Holds b id) : a = b := by
  have same := List.inj_on_of_nodup_map h.ids_nodup (holds_iff_mem_held.1 first)
    (holds_iff_mem_held.1 second) rfl
  exact (Prod.mk.inj same).1

theorem Holdings.mem_idSet (h : m.Holdings) (id : Int) : id ∈ m.idSet ↔ ∃ a, m.Holds a id := by
  rw [h.idSet_eq, List.mem_toFinset, List.mem_map]
  constructor
  · rintro ⟨⟨a, i⟩, held, rfl⟩
    exact ⟨a, holds_iff_mem_held.2 held⟩
  · rintro ⟨a, held⟩
    exact ⟨(a, id), holds_iff_mem_held.1 held, rfl⟩

/-- From a state of the invariant, `AllocateId` returns. -/
theorem allocateId_returns (inv : m.Inv) (a : α) :
    ∃ id m', m.allocateId a = some (id, m') ∧ m'.Holds a id ∧
      (∀ i, m.Holds a i → id = i) ∧ ((∀ i, ¬m.Holds a i) → ∀ b, ¬m.Holds b id) := by
  cases found : m.pairedDeviceCache.listMap.find? a with
  | some id =>
    have held : m.Holds a id := Or.inl found
    refine ⟨id, _, allocateId_of_paired found, Or.inl ?_,
      fun i other => inv.id_unique held other, fun none => absurd held (none id)⟩
    rw [LruCache.find?_find, found]
  | none =>
    cases foundTemporary : m.temporaryDeviceCache.listMap.find? a with
    | some id =>
      have held : m.Holds a id := Or.inr foundTemporary
      refine ⟨id, _, allocateId_of_temporary found foundTemporary, Or.inr ?_,
        fun i other => inv.id_unique held other, fun none => absurd held (none id)⟩
      rw [LruCache.find?_find, foundTemporary]
    | none =>
      -- a new address: the probe finds a free id, since fewer ids are held than there are
      obtain ⟨x, validId, free⟩ := exists_free_id inv.toHoldings
      obtain ⟨j, probe⟩ := probeNextId_isSome inv.nextId_valid validId free
      have fresh := (probeNextId_eq_some probe).1
      refine ⟨j, _, allocateId_of_probe found foundTemporary probe,
        Or.inr (LruCache.find?_insertOrAssign_self _ _ _),
        fun i held => absurd held (not_holds_of_absent found foundTemporary i),
        fun _ b held => fresh ((inv.mem_idSet j).2 ⟨b, held⟩)⟩

theorem Inv.spec (inv : m.Inv) : m.Spec where
  disjoint a i j paired temporary := by
    have apart := List.nodup_append.1 (by simpa only [held, List.map_append] using inv.addresses_nodup)
    exact apart.2.2 a (List.mem_map.2 ⟨(a, i), InsertionMap.find?_eq_some_iff.1 paired, rfl⟩)
      a (List.mem_map.2 ⟨(a, j), InsertionMap.find?_eq_some_iff.1 temporary, rfl⟩) rfl
  ids_valid a id held := inv.ids_valid (a, id) (holds_iff_mem_held.1 held)
  ids_distinct _ _ _ first second := inv.address_unique first second
  idSet_eq := inv.mem_idSet
  allocateId_returns := allocateId_returns inv

end Spec

/-- **The metric id allocator keeps its ids.** After `Init` with a saved map of distinct
addresses and distinct valid ids that fits in the paired cache, every sequence of
`AllocateId`, `SaveDevice` and `ForgetDevice` calls leaves the two caches with disjoint
addresses, valid ids each held by one address, `id_set_` the set of ids held, and an
`AllocateId` that returns the address's id or one nobody holds; and `forget_device_callback_`
has been called, in order, with exactly the pairs that left the paired cache, call by call. -/
theorem metric_id_manager_keeps_ids (pairedDeviceMap : List (α × Int))
    (saveIdCallback : α → Int → Bool) (addresses : (pairedDeviceMap.map Prod.fst).Nodup)
    (ids : (pairedDeviceMap.map Prod.snd).Nodup)
    (valid : ∀ p ∈ pairedDeviceMap, kMinId ≤ p.2 ∧ p.2 ≤ kMaxId)
    (fits : pairedDeviceMap.length ≤ kMaxNumPairedDevicesInMemory) :
    ∃ m₀, (new : MetricIdManager α).init pairedDeviceMap saveIdCallback = some (true, m₀) ∧
      ∀ ops : List (MetricOp α),
        (Lts.replay step m₀ ops).2.Spec ∧
          (Lts.replay step m₀ ops).2.forgotten = Lts.collect pairedLeft step m₀ ops := by
  obtain ⟨m₀, init, inv₀, none₀⟩ := init_new saveIdCallback addresses ids valid fits
  refine ⟨m₀, init, fun ops => ⟨?_, ?_⟩⟩
  · have allowed : Lts.Allowed (fun _ _ => True) step m₀ ops :=
      Lts.allowed_of_forall _ (fun _ _ => trivial) m₀ ops
    exact (Lts.replay_invariant _ Inv (fun m op inv _ => inv_step inv op) inv₀ allowed).spec
  · have allowed : Lts.Allowed (fun _ _ => True) step m₀ ops :=
      Lts.allowed_of_forall _ (fun _ _ => trivial) m₀ ops
    rw [Lts.replay_log _ Inv pairedLeft forgotten (fun m op inv _ => inv_step inv op)
      (fun m op _ _ => forgotten_step op) inv₀ allowed, none₀, List.nil_append]

/-- The claim at a map of one saved device. -/
theorem metric_id_manager_keeps_ids_one :
    ([((7 : Nat), (5 : Int))].map Prod.fst).Nodup ∧ ([((7 : Nat), (5 : Int))].map Prod.snd).Nodup ∧
      (∀ p ∈ [((7 : Nat), (5 : Int))], kMinId ≤ p.2 ∧ p.2 ≤ kMaxId) ∧
      [((7 : Nat), (5 : Int))].length ≤ kMaxNumPairedDevicesInMemory ∧
      ∃ m₀, (new : MetricIdManager Nat).init [(7, 5)] (fun _ _ => true) = some (true, m₀) ∧
        ∀ ops : List (MetricOp Nat),
          (Lts.replay step m₀ ops).2.Spec ∧
            (Lts.replay step m₀ ops).2.forgotten = Lts.collect pairedLeft step m₀ ops :=
  ⟨by decide, by decide, by decide, by decide,
    metric_id_manager_keeps_ids [(7, 5)] (fun _ _ => true) (by decide) (by decide) (by decide)
      (by decide)⟩

/-! ## §7 — an eviction from the temporary cache is not reported

`AllocateId` drops the id of the pair the temporary cache evicts from `id_set_` and does not
call `forget_device_callback_`. After `Init` with no saved device, 200 new addresses fill the
temporary cache (`Filled`, by induction on the addresses); the 201st evicts the first, whose id
leaves `id_set_` with no report. -/

section Eviction

/-- The allocator after `k` new addresses `0, …, k - 1` asked for ids, from `Init` with no saved
device: nothing paired, and address `i` holding id `i + 1` in the temporary cache, newest
first. -/
structure Filled (k : Nat) (s : MetricIdManager Nat) : Prop where
  paired : s.pairedDeviceCache.listMap.entries = []
  temporary : s.temporaryDeviceCache.listMap.entries =
    (List.range k).reverse.map fun i : Nat => (i, (i : Int) + 1)
  temporary_capacity : s.temporaryDeviceCache.capacity = kMaxNumUnpairedDevicesInMemory
  idSet : s.idSet = ((List.range k).map fun i : Nat => (i : Int) + 1).toFinset
  nextId : s.nextId = k + 1
  forgotten : s.forgotten = []

theorem init_nil (saveIdCallback : Nat → Int → Bool) :
    (new : MetricIdManager Nat).init [] saveIdCallback =
      some (true, { (new : MetricIdManager Nat) with
        saveIdCallback := saveIdCallback, initialized := true }) := rfl

theorem filled_init (saveIdCallback : Nat → Int → Bool) :
    Filled 0 { (new : MetricIdManager Nat) with
      saveIdCallback := saveIdCallback, initialized := true } :=
  ⟨rfl, rfl, rfl, rfl, rfl, rfl⟩

section

variable {k : Nat} {s : MetricIdManager Nat}

/-- The next new address is in neither cache, and its id is free. -/
theorem Filled.fresh (filled : Filled k s) :
    s.pairedDeviceCache.listMap.find? k = none ∧ s.temporaryDeviceCache.listMap.find? k = none ∧
      probeNextId s.idSet s.nextId kIdSpace = some ((k : Int) + 1) := by
  refine ⟨?_, ?_, ?_⟩
  · cases found : s.pairedDeviceCache.listMap.find? k with
    | none => rfl
    | some v =>
      have held := InsertionMap.find?_eq_some_iff.1 found
      rw [filled.paired] at held
      cases held
  · cases found : s.temporaryDeviceCache.listMap.find? k with
    | none => rfl
    | some v =>
      have held := InsertionMap.find?_eq_some_iff.1 found
      rw [filled.temporary] at held
      simp at held
  · have free : ((k : Int) + 1) ∉ ((List.range k).map fun i : Nat => (i : Int) + 1).toFinset := by
      simp
    rw [filled.nextId, filled.idSet, kIdSpace_eq, probeNextId, if_neg free]

/-- Below the temporary cache's capacity, one more new address gets the next id. -/
theorem Filled.step (filled : Filled k s) (room : k < kMaxNumUnpairedDevicesInMemory) :
    Filled (k + 1) (s.step (.allocateId k)).2 := by
  obtain ⟨absent, absentTemporary, probe⟩ := filled.fresh
  have size : s.temporaryDeviceCache.listMap.size = k := by
    simp [InsertionMap.size, filled.temporary]
  have notFull : s.temporaryDeviceCache.listMap.size < s.temporaryDeviceCache.capacity := by
    rw [size, filled.temporary_capacity]
    exact room
  simp only [MetricIdManager.step, allocateId_of_probe absent absentTemporary probe,
    LruCache.evictedNode_of_lt notFull]
  refine ⟨filled.paired, ?_, ?_, ?_, ?_, filled.forgotten⟩
  · -- the new pair goes in front
    show (s.temporaryDeviceCache.insertOrAssign k (k + 1)).listMap.entries = _
    have notFull' : ¬s.temporaryDeviceCache.toRecency.entries.length =
        s.temporaryDeviceCache.toRecency.capacity := Nat.ne_of_lt notFull
    rw [LruCache.entries_insertOrAssign_of_find?_eq_none absentTemporary, RecencyList.add,
      if_neg notFull']
    simp [filled.temporary, List.range_succ]
  · exact (LruCache.capacity_insertOrAssign _ _ _).trans filled.temporary_capacity
  · show insert ((k : Int) + 1) s.idSet \ _ = _
    rw [filled.idSet]
    ext x
    simp [List.range_succ]
  · show bumpId ((k : Int) + 1) = _
    unfold bumpId kMaxId
    unfold kMaxNumUnpairedDevicesInMemory at room
    rw [if_neg (by omega)]
    push_cast
    ring

theorem filled_range (saveIdCallback : Nat → Int → Bool) {k : Nat}
    (within : k ≤ kMaxNumUnpairedDevicesInMemory) :
    Filled k (Lts.replay step { (new : MetricIdManager Nat) with
      saveIdCallback := saveIdCallback, initialized := true } ((List.range k).map .allocateId)).2 := by
  induction k with
  | zero => exact filled_init saveIdCallback
  | succ k ih =>
    rw [List.range_succ, List.map_append, Lts.replay_append_snd]
    exact (ih (by omega)).step (by omega)

/-- With the temporary cache full, a new address evicts the oldest, address `0` with id `1`:
the id leaves `id_set_`, and nothing is reported. -/
theorem Filled.evict (filled : Filled 200 s) :
    (∀ id, ¬(s.step (.allocateId 200)).2.Holds 0 id) ∧ 1 ∉ (s.step (.allocateId 200)).2.idSet ∧
      (s.step (.allocateId 200)).2.forgotten = [] := by
  obtain ⟨absent, absentTemporary, probe⟩ := filled.fresh
  have full : s.temporaryDeviceCache.toRecency.entries.length =
      s.temporaryDeviceCache.toRecency.capacity := by
    show s.temporaryDeviceCache.listMap.entries.length = s.temporaryDeviceCache.capacity
    rw [filled.temporary, filled.temporary_capacity, List.length_map, List.length_reverse,
      List.length_range]
    rfl
  have oldest : s.temporaryDeviceCache.listMap.entries.getLast? = some (0, 1) := by
    rw [filled.temporary, List.getLast?_map, List.getLast?_reverse, List.head?_range]
    rfl
  have evicted : s.temporaryDeviceCache.evictedNode 200 = some (0, 1) := by
    rw [LruCache.evictedNode_of_find?_eq_none absentTemporary 201, RecencyList.add, if_pos full]
    exact oldest
  simp only [MetricIdManager.step, allocateId_of_probe absent absentTemporary probe, evicted]
  refine ⟨fun id held => ?_, by simp, filled.forgotten⟩
  rcases held with paired | temporary
  · have mem := InsertionMap.find?_eq_some_iff.1 paired
    rw [filled.paired] at mem
    cases mem
  · -- address `0` was the last pair, and no other pair has its address
    have mem := InsertionMap.find?_eq_some_iff.1 temporary
    rw [LruCache.entries_insertOrAssign_of_find?_eq_none absentTemporary, RecencyList.add,
      if_pos full] at mem
    have split := dropLast_append_getLast?_toList s.temporaryDeviceCache.listMap.entries
    rw [oldest] at split
    have keys := s.temporaryDeviceCache.listMap.nodup
    rw [← split, List.map_append, List.nodup_append] at keys
    rcases List.mem_cons.1 mem with same | earlier
    · cases same
    · exact keys.2.2 0 (List.mem_map.2 ⟨(0, id), earlier, rfl⟩) 0 (by simp) rfl

end

/-- **An id evicted from the temporary cache is not reported.** After `Init` with no saved
device, address `0` gets id `1`; after 200 more new addresses it holds no id and `1` has left
`id_set_`, and `forget_device_callback_` has never been called. -/
theorem allocateId_evicts_without_report :
    ∃ m₀, (new : MetricIdManager Nat).init [] (fun _ _ => true) = some (true, m₀) ∧
      (Lts.replay step m₀ [.allocateId 0]).2.Holds 0 1 ∧
      (∀ id, ¬(Lts.replay step m₀ ((List.range 201).map .allocateId)).2.Holds 0 id) ∧
      1 ∉ (Lts.replay step m₀ ((List.range 201).map .allocateId)).2.idSet ∧
      (Lts.replay step m₀ ((List.range 201).map .allocateId)).2.forgotten = [] := by
  refine ⟨_, init_nil _, ?_, ?_⟩
  · have first := filled_range (fun _ _ => true) (k := 1) (by decide)
    refine Or.inr (InsertionMap.find?_eq_some_iff.2 ?_)
    rw [show [MetricOp.allocateId 0] = (List.range 1).map MetricOp.allocateId from rfl,
      first.temporary]
    simp
  · have full := filled_range (fun _ _ => true) (k := 200) (by decide)
    rw [List.range_succ, List.map_append, Lts.replay_append_snd, List.map_singleton,
      Lts.replay_singleton_snd]
    exact full.evict

end Eviction

end MetricIdManager

end Common

import Fluoride.Storage.ConfigCache
import Fluoride.Lib.Replay
import Fluoride.Lib.Changes

/-!
# `common::LruCache` refines a recency list (`common/lru_cache.h`, `common/list_map.h`)

The cache keeps a `ListMap`, a `std::list` of entries with an `unordered_map` from keys to
list iterators, warmest entry first. What its users observe is the order in which
`begin()`..`end()` iterates the entries, and what each call returns. The abstract cache of
this module is that order as a plain list with a capacity: a use of a present key moves its
entry to the front; putting an absent key adds it at the front, and when the list already
holds `capacity` entries the last one leaves and is returned; putting a present key moves it
to the front with its new value and evicts nothing.

`LruCache.step` is one call on the model of `ConfigCache.lean` together with what the call
returns, `RecencyList.step` the same call on the abstract cache. From every cache whose size
is within its capacity, a call returns what the abstract cache returns and leaves the entries
equal to the abstract list (`step_simulates`); by the refinement rule of `Lib/Replay.lean`
every sequence of calls does, and the size stays within the capacity (`size_replay_le`).

`insert_or_assign` and `try_emplace` return the node they evicted: the model of
`ConfigCache.lean` gives the cache after the call, `LruCache.evictedNode` what it returns.
-/

namespace Storage

/-- A call on a `common::LruCache`. `erase` takes an iterator to an entry in the source; here
the entry is named by its key. -/
inductive LruOp (κ τ : Type) where
  | find (k : κ)
  | contains (k : κ)
  | insertOrAssign (k : κ) (v : τ)
  | tryEmplace (k : κ) (v : τ)
  | extract (k : κ)
  | erase (k : κ)
  deriving DecidableEq, Repr

/-- What a call returns: the value `find` points to or `extract` takes out, whether
`contains` found the key, the node `insert_or_assign` evicted, and whether `try_emplace`
inserted with the node it evicted. -/
inductive LruReply (κ τ : Type) where
  | value (v : Option τ)
  | present (found : Bool)
  | evicted (node : Option (κ × τ))
  | emplaced (inserted : Bool) (node : Option (κ × τ))
  | done
  deriving DecidableEq, Repr

/-! ## §1 — the abstract cache -/

/-- The entries from the most to the least recently used, and the capacity. -/
structure RecencyList (κ τ : Type) where
  capacity : Nat
  entries : List (κ × τ)
  deriving DecidableEq, Repr

namespace RecencyList

variable {κ τ : Type} [DecidableEq κ]

def lookup (r : RecencyList κ τ) (k : κ) : Option τ := r.entries.lookup k

/-- The entries without the one of `k`. -/
def without (r : RecencyList κ τ) (k : κ) : List (κ × τ) := r.entries.eraseP fun e => e.1 == k

/-- A use of `k`: its entry, if there is one, goes to the front. -/
def use (r : RecencyList κ τ) (k : κ) : RecencyList κ τ :=
  match r.lookup k with
  | some v => { r with entries := (k, v) :: r.without k }
  | none => r

/-- A new key at the front; when the list is full its last entry leaves and is returned. -/
def add (r : RecencyList κ τ) (k : κ) (v : τ) : Option (κ × τ) × RecencyList κ τ :=
  if r.entries.length = r.capacity then
    (r.entries.getLast?, { r with entries := (k, v) :: r.entries.dropLast })
  else (none, { r with entries := (k, v) :: r.entries })

/-- One call on the abstract cache. -/
def step (r : RecencyList κ τ) : LruOp κ τ → LruReply κ τ × RecencyList κ τ
  | .find k => (.value (r.lookup k), r.use k)
  | .contains k => (.present (r.lookup k).isSome, r.use k)
  | .insertOrAssign k v =>
    if (r.lookup k).isSome then (.evicted none, { r with entries := (k, v) :: r.without k })
    else (.evicted (r.add k v).1, (r.add k v).2)
  | .tryEmplace k v =>
    if (r.lookup k).isSome then (.emplaced false none, r.use k)
    else (.emplaced true (r.add k v).1, (r.add k v).2)
  | .extract k => (.value (r.lookup k), { r with entries := r.without k })
  | .erase k => (.done, { r with entries := r.without k })

/-- The empty cache of a capacity. -/
def empty (capacity : Nat) : RecencyList κ τ := ⟨capacity, []⟩

end RecencyList

/-! ## §2 — the cache's calls with what they return -/

namespace LruCache

variable {κ τ : Type} [DecidableEq κ]

/-- The node `insert_or_assign` and `try_emplace` return: the last entry, extracted when the
key is absent and the cache is full. -/
def evictedNode (c : LruCache κ τ) (k : κ) : Option (κ × τ) :=
  if c.listMap.contains k then none
  else if c.listMap.size = c.capacity then c.listMap.entries.getLast? else none

/-- One call on the cache: what it returns, and the cache after it. -/
def step (c : LruCache κ τ) : LruOp κ τ → LruReply κ τ × LruCache κ τ
  | .find k => (.value (c.find k).1, (c.find k).2)
  | .contains k => (.present (c.contains k).1, (c.contains k).2)
  | .insertOrAssign k v => (.evicted (c.evictedNode k), c.insertOrAssign k v)
  | .tryEmplace k v => (.emplaced (!c.listMap.contains k) (c.evictedNode k), c.tryEmplace k v)
  | .extract k => (.value (c.extract k).1, (c.extract k).2)
  | .erase k => (.done, c.erase k)

/-- A cache constructed with a capacity. -/
def new (capacity : Nat) (capacity_pos : 0 < capacity) : LruCache κ τ :=
  ⟨capacity, capacity_pos, .empty⟩

/-- What the users of a cache see of it: its capacity and its entries in order. -/
def toRecency (c : LruCache κ τ) : RecencyList κ τ := ⟨c.capacity, c.listMap.entries⟩

/-! ## §3 — each call refines the abstract call

Per call, the cache's entries are rewritten into list operations (`InsertionMap`'s lookup is
`List.lookup`, its erasure `List.eraseP`), case by case on whether the key is present and
whether the cache is full. -/

omit [DecidableEq κ] in
@[simp] theorem capacity_toRecency (c : LruCache κ τ) : c.toRecency.capacity = c.capacity := rfl

omit [DecidableEq κ] in
@[simp] theorem entries_toRecency (c : LruCache κ τ) : c.toRecency.entries = c.listMap.entries :=
  rfl

theorem lookup_toRecency (c : LruCache κ τ) (k : κ) :
    c.toRecency.lookup k = c.listMap.find? k :=
  (InsertionMap.find?_eq_lookup _ _).symm

theorem contains_eq_isSome (c : LruCache κ τ) (k : κ) :
    c.listMap.contains k = (c.listMap.find? k).isSome := by
  simp only [InsertionMap.contains, decide_eq_decide.2 InsertionMap.mem_keys_iff_isSome,
    Bool.decide_eq_true]

theorem toRecency_find (c : LruCache κ τ) (k : κ) : (c.find k).2.toRecency = c.toRecency.use k := by
  unfold RecencyList.use
  rw [lookup_toRecency]
  cases found : c.listMap.find? k with
  | some v => exact congrArg (RecencyList.mk _) (InsertionMap.entries_moveToFront found)
  | none => exact congrArg (RecencyList.mk _ ·.entries) (InsertionMap.moveToFront_of_find?_eq_none found)

theorem find_of_find?_eq_none {c : LruCache κ τ} {k : κ} (absent : c.listMap.find? k = none) :
    (c.find k).2 = c :=
  ext rfl (InsertionMap.moveToFront_of_find?_eq_none absent)

omit [DecidableEq κ] in
theorem entries_makeRoom (c : LruCache κ τ) :
    c.makeRoom.listMap.entries =
      if c.listMap.size = c.capacity then c.listMap.entries.dropLast else c.listMap.entries := by
  unfold makeRoom
  split_ifs <;> rfl

/-- `insert_or_assign` on a hit: the entry, moved to the front, takes the value. -/
theorem insertOrAssign_of_find?_eq_some {c : LruCache κ τ} {k : κ} {w : τ}
    (found : c.listMap.find? k = some w) (v : τ) :
    c.insertOrAssign k v = { (c.find k).2 with listMap := (c.find k).2.listMap.modify k fun _ => v } := by
  simp only [insertOrAssign, contains, find_fst, found, Option.isSome_some, if_true]

/-- `insert_or_assign` on a miss: room is made and the key added at the front. -/
theorem insertOrAssign_of_find?_eq_none {c : LruCache κ τ} {k : κ}
    (absent : c.listMap.find? k = none) (v : τ) :
    c.insertOrAssign k v = { c.makeRoom with listMap := c.makeRoom.listMap.insertOrAssignFront k v } := by
  simp only [insertOrAssign, contains, find_fst, absent, Option.isSome_none,
    find_of_find?_eq_none absent]
  rfl

theorem tryEmplace_of_find?_eq_some {c : LruCache κ τ} {k : κ} {w : τ}
    (found : c.listMap.find? k = some w) (v : τ) : c.tryEmplace k v = (c.find k).2 := by
  simp only [tryEmplace, contains, find_fst, found, Option.isSome_some, if_true]

theorem tryEmplace_of_find?_eq_none {c : LruCache κ τ} {k : κ}
    (absent : c.listMap.find? k = none) (v : τ) :
    c.tryEmplace k v = { c.makeRoom with listMap := c.makeRoom.listMap.insertOrAssignFront k v } := by
  simp only [tryEmplace, contains, find_fst, absent, Option.isSome_none,
    find_of_find?_eq_none absent]
  rfl

/-- Making room and adding an absent key is the abstract `add`. -/
theorem toRecency_add (c : LruCache κ τ) {k : κ} (absent : c.listMap.find? k = none) (v : τ) :
    ({ c.makeRoom with listMap := c.makeRoom.listMap.insertOrAssignFront k v } :
      LruCache κ τ).toRecency = (c.toRecency.add k v).2 := by
  have absentRoom : k ∉ c.makeRoom.listMap.keys := fun present => by
    obtain ⟨w, found⟩ := Option.isSome_iff_exists.1 (InsertionMap.mem_keys_iff_isSome.1 present)
    rw [find?_makeRoom found] at absent
    cases absent
  rw [toRecency, InsertionMap.entries_insertOrAssignFront_of_not_mem absentRoom v, entries_makeRoom,
    capacity_makeRoom]
  unfold RecencyList.add
  by_cases full : c.listMap.size = c.capacity
  · have full' : c.toRecency.entries.length = c.toRecency.capacity := full
    rw [if_pos full, if_pos full']
    rfl
  · have full' : ¬c.toRecency.entries.length = c.toRecency.capacity := full
    rw [if_neg full, if_neg full']
    rfl

theorem evictedNode_of_find?_eq_none {c : LruCache κ τ} {k : κ} (absent : c.listMap.find? k = none)
    (v : τ) : c.evictedNode k = (c.toRecency.add k v).1 := by
  rw [evictedNode, contains_eq_isSome, absent, Option.isSome_none, if_neg Bool.false_ne_true]
  unfold RecencyList.add
  by_cases full : c.listMap.size = c.capacity
  · have full' : c.toRecency.entries.length = c.toRecency.capacity := full
    rw [if_pos full, if_pos full']
    rfl
  · have full' : ¬c.toRecency.entries.length = c.toRecency.capacity := full
    rw [if_neg full, if_neg full']

theorem evictedNode_of_find?_eq_some {c : LruCache κ τ} {k : κ} {w : τ}
    (found : c.listMap.find? k = some w) : c.evictedNode k = none := by
  rw [evictedNode, contains_eq_isSome, found]
  rfl

/-- **Each call refines the abstract call**: it returns what the abstract cache returns, and
the entries after it are the abstract list after it. -/
theorem step_simulates (c : LruCache κ τ) (op : LruOp κ τ) :
    c.toRecency.step op = ((c.step op).1, (c.step op).2.toRecency) := by
  cases op with
  | find k => rw [RecencyList.step, step, lookup_toRecency, toRecency_find, find_fst]
  | contains k =>
    rw [RecencyList.step, step, lookup_toRecency]
    exact Prod.ext rfl (toRecency_find c k).symm
  | insertOrAssign k v =>
    rw [RecencyList.step, step, lookup_toRecency]
    cases found : c.listMap.find? k with
    | some w =>
      -- a hit: the entry moves to the front with the new value, nothing is evicted
      rw [insertOrAssign_of_find?_eq_some found, evictedNode_of_find?_eq_some found]
      exact Prod.ext rfl (congrArg (RecencyList.mk _)
        (InsertionMap.entries_modify_moveToFront found fun _ => v).symm)
    | none =>
      rw [insertOrAssign_of_find?_eq_none found, evictedNode_of_find?_eq_none found v]
      exact Prod.ext rfl (toRecency_add c found v).symm
  | tryEmplace k v =>
    rw [RecencyList.step, step, lookup_toRecency, contains_eq_isSome]
    cases found : c.listMap.find? k with
    | some w =>
      rw [tryEmplace_of_find?_eq_some found, evictedNode_of_find?_eq_some found]
      exact Prod.ext rfl (toRecency_find c k).symm
    | none =>
      rw [tryEmplace_of_find?_eq_none found, evictedNode_of_find?_eq_none found v]
      exact Prod.ext rfl (toRecency_add c found v).symm
  | extract k =>
    rw [RecencyList.step, step, lookup_toRecency]
    exact Prod.ext rfl (congrArg (RecencyList.mk _) (InsertionMap.entries_erase _ _).symm)
  | erase k =>
    rw [RecencyList.step, step]
    exact Prod.ext rfl (congrArg (RecencyList.mk _) (InsertionMap.entries_erase _ _).symm)

/-! ## §4 — every sequence of calls -/

@[simp] theorem capacity_step (c : LruCache κ τ) (op : LruOp κ τ) :
    (c.step op).2.capacity = c.capacity := by
  cases op <;> simp [step, contains, extract, erase]

/-- A call keeps the size within the capacity. -/
theorem size_step_le (c : LruCache κ τ) (op : LruOp κ τ) (within : c.listMap.size ≤ c.capacity) :
    (c.step op).2.listMap.size ≤ (c.step op).2.capacity := by
  rw [capacity_step]
  cases op with
  | find k | contains k => simpa [step, contains] using within
  | insertOrAssign k v => exact size_insertOrAssign_le k v within
  | tryEmplace k v => exact size_tryEmplace_le k v within
  | extract k | erase k => exact Nat.le_trans (InsertionMap.size_erase_le _ _) within

theorem capacity_replay (c : LruCache κ τ) (ops : List (LruOp κ τ)) :
    (Lts.replay step c ops).2.capacity = c.capacity :=
  Lts.replay_invariant (fun _ _ => True) (fun c' : LruCache κ τ => c'.capacity = c.capacity)
    (fun c' op same _ => (capacity_step c' op).trans same) rfl
    (Lts.allowed_of_forall _ (fun _ _ => trivial) c ops)

/-- **`common::LruCache` refines the recency list.** From a cache constructed with any
capacity, every sequence of calls returns what the abstract cache returns, the cache then
iterates exactly the abstract list, its keys are distinct and its size is within its
capacity. -/
theorem lru_cache_refines_recency_list (capacity : Nat) (capacity_pos : 0 < capacity)
    (ops : List (LruOp κ τ)) :
    Lts.replay RecencyList.step (RecencyList.empty capacity) ops =
        ((Lts.replay step (new capacity capacity_pos) ops).1,
          (Lts.replay step (new capacity capacity_pos) ops).2.toRecency) ∧
      (Lts.replay step (new capacity capacity_pos) ops).2.listMap.keys.Nodup ∧
      (Lts.replay step (new capacity capacity_pos) ops).2.listMap.size ≤ capacity := by
  have allowed : Lts.Allowed (fun _ _ => True) step (new capacity capacity_pos : LruCache κ τ) ops :=
    Lts.allowed_of_forall _ (fun _ _ => trivial) _ ops
  have within := Lts.replay_invariant _ (fun c : LruCache κ τ => c.listMap.size ≤ c.capacity)
    (fun c op hc _ => size_step_le c op hc) (Nat.zero_le _) allowed
  have refines := Lts.replay_refines _ (fun _ : LruCache κ τ => True) toRecency
    (fun _ _ _ _ => trivial) (fun c op _ _ => step_simulates c op) trivial allowed
  refine ⟨refines, (Lts.replay step _ ops).2.listMap.nodup, ?_⟩
  rw [capacity_replay] at within
  exact within

theorem lru_cache_refines_recency_list_two :
    0 < 2 ∧ Lts.replay RecencyList.step (RecencyList.empty 2)
        [.insertOrAssign 1 10, .insertOrAssign 2 20, .find 1, .insertOrAssign 3 30] =
      ((Lts.replay step (new 2 Nat.zero_lt_two)
          [.insertOrAssign 1 10, .insertOrAssign 2 20, .find 1, .insertOrAssign 3 30]).1,
        (Lts.replay step (new 2 Nat.zero_lt_two : LruCache Nat Nat)
          [.insertOrAssign 1 10, .insertOrAssign 2 20, .find 1, .insertOrAssign 3 30]).2.toRecency) :=
  ⟨Nat.zero_lt_two, (lru_cache_refines_recency_list 2 Nat.zero_lt_two _).1⟩

end LruCache

/-! ## §5 — the entries a call puts in and takes out

A user that counts what the cache holds (an allocator whose ids the entries own) sees each call
as a reordering of the entries that puts in the entry it assigns and takes out the one it
evicts or extracts (`ListChange`). -/

/-- The entries of a list and its last one. -/
theorem dropLast_append_getLast?_toList {β : Type} (l : List β) :
    l.dropLast ++ l.getLast?.toList = l := by
  cases last : l.getLast? with
  | none => simp [List.getLast?_eq_none_iff.1 last]
  | some e => exact List.dropLast_append_getLast? e last

namespace RecencyList

variable {κ τ : Type}

/-- `add` puts the new entry in and takes the evicted one out. -/
theorem change_add (r : RecencyList κ τ) (k : κ) (v : τ) :
    ListChange r.entries (r.add k v).2.entries [(k, v)] (r.add k v).1.toList := by
  unfold add ListChange
  split
  · -- full: the last entry leaves
    show ((k, v) :: r.entries.dropLast ++ r.entries.getLast?.toList).Perm ([(k, v)] ++ r.entries)
    rw [List.cons_append, dropLast_append_getLast?_toList]
    rfl
  · show ((k, v) :: r.entries ++ []).Perm ([(k, v)] ++ r.entries)
    simp

end RecencyList

namespace LruCache

variable {κ τ : Type} [DecidableEq κ]

/-- `find` on a hit: the value, and the cache with the entry moved to the front. -/
theorem find_eq_of_find?_eq_some {c : LruCache κ τ} {k : κ} {v : τ}
    (found : c.listMap.find? k = some v) : c.find k = (some v, (c.find k).2) :=
  Prod.ext found rfl

theorem find_eq_of_find?_eq_none {c : LruCache κ τ} {k : κ} (absent : c.listMap.find? k = none) :
    c.find k = (none, c) :=
  Prod.ext absent (find_of_find?_eq_none absent)

theorem contains_eq_of_find?_eq_some {c : LruCache κ τ} {k : κ} {v : τ}
    (found : c.listMap.find? k = some v) : c.contains k = (true, (c.find k).2) := by
  rw [contains, find_eq_of_find?_eq_some found]
  rfl

theorem contains_eq_of_find?_eq_none {c : LruCache κ τ} {k : κ}
    (absent : c.listMap.find? k = none) : c.contains k = (false, c) := by
  rw [contains, find_eq_of_find?_eq_none absent]
  rfl

theorem extract_fst (c : LruCache κ τ) (k : κ) : (c.extract k).1 = c.listMap.find? k := rfl

@[simp] theorem capacity_extract (c : LruCache κ τ) (k : κ) :
    (c.extract k).2.capacity = c.capacity := rfl

theorem size_extract_le (c : LruCache κ τ) (k : κ) :
    (c.extract k).2.listMap.size ≤ c.listMap.size :=
  InsertionMap.size_erase_le _ _

/-- `find` only reorders. -/
theorem change_find (c : LruCache κ τ) (k : κ) :
    ListChange c.listMap.entries (c.find k).2.listMap.entries [] [] := by
  refine ListChange.of_perm ?_
  cases found : c.listMap.find? k with
  | some v =>
    rw [show (c.find k).2.listMap = c.listMap.moveToFront k from rfl,
      InsertionMap.entries_moveToFront found]
    exact InsertionMap.perm_eraseP_of_find? found
  | none => rw [find_of_find?_eq_none found]

/-- `insert_or_assign` of an absent key is the abstract `add`. -/
theorem entries_insertOrAssign_of_find?_eq_none {c : LruCache κ τ} {k : κ}
    (absent : c.listMap.find? k = none) (v : τ) :
    (c.insertOrAssign k v).listMap.entries = (c.toRecency.add k v).2.entries := by
  rw [insertOrAssign_of_find?_eq_none absent]
  exact congrArg RecencyList.entries (toRecency_add c absent v)

/-- `insert_or_assign` of an absent key puts its entry in and takes the evicted node out. -/
theorem change_insertOrAssign {c : LruCache κ τ} {k : κ} (absent : c.listMap.find? k = none)
    (v : τ) :
    ListChange c.listMap.entries (c.insertOrAssign k v).listMap.entries [(k, v)]
      (c.evictedNode k).toList := by
  rw [entries_insertOrAssign_of_find?_eq_none absent, evictedNode_of_find?_eq_none absent v]
  exact RecencyList.change_add c.toRecency k v

/-- A cache with room evicts nothing. -/
theorem evictedNode_of_lt {c : LruCache κ τ} (room : c.listMap.size < c.capacity) (k : κ) :
    c.evictedNode k = none := by
  unfold evictedNode
  split_ifs with present full
  · rfl
  · omega
  · rfl

/-- The node evicted is one the cache held. -/
theorem mem_of_evictedNode {c : LruCache κ τ} {k : κ} {e : κ × τ} (evicted : c.evictedNode k = some e) :
    e ∈ c.listMap.entries := by
  unfold evictedNode at evicted
  split_ifs at evicted
  exact List.mem_of_getLast? evicted

/-- `extract` takes out the entry of the key, if there is one. -/
theorem change_extract (c : LruCache κ τ) (k : κ) :
    ListChange c.listMap.entries (c.extract k).2.listMap.entries []
      ((c.listMap.find? k).map fun v => (k, v)).toList := by
  rw [show (c.extract k).2.listMap = c.listMap.erase k from rfl, InsertionMap.entries_erase]
  unfold ListChange
  cases found : c.listMap.find? k with
  | some v =>
    exact (List.perm_append_singleton _ _).trans (InsertionMap.perm_eraseP_of_find? found)
  | none =>
    -- no entry has the key, so none is erased
    have none_of_key : ∀ e ∈ c.listMap.entries, ¬(e.1 == k) = true := by
      intro e held same
      have : c.listMap.find? k = some e.2 :=
        InsertionMap.find?_eq_some_iff.2 (by rw [← beq_iff_eq.1 same]; exact held)
      rw [found] at this
      cases this
    rw [List.eraseP_of_forall_not none_of_key]
    simp

end LruCache

end Storage

import Fluoride.Lib.InsertionMap
import Fluoride.Lib.CStr

/-!
# The configuration cache (`storage/config_cache.cc`, `common/lru_cache.h`)

A `ConfigCache` holds three maps from section names to properties: the information sections
(names that are not addresses), the persistent devices (paired: they hold a property of the
persistent set, a link key) and the temporary devices, a least-recently-used cache of bounded
capacity. `SetProperty` moves a device to the persistent list when it gets a persistent
property; `RemoveProperty` moves it back when it loses one.

Strings are lists of characters. There is no keystore interface, so the encryption branches of
`SetProperty` and `RemoveProperty` are not taken, and the change callback has no effect on the
maps.
-/

namespace Storage

open CStr (isSpace)

/-! ## `common::LruCache` -/

/-- `LruCache`: a list map, most recently used first, of at most `capacity` entries (the
constructor refuses a capacity of zero). -/
structure LruCache (κ τ : Type) where
  capacity : Nat
  capacity_pos : 0 < capacity
  listMap : InsertionMap κ τ

namespace LruCache

variable {κ τ : Type} [DecidableEq κ]

/-- `find`: a hit moves the entry to the front. -/
def find (c : LruCache κ τ) (k : κ) : Option τ × LruCache κ τ :=
  (c.listMap.find? k, { c with listMap := c.listMap.moveToFront k })

/-- `contains`, which is `find` and so also moves a hit to the front. -/
def contains (c : LruCache κ τ) (k : κ) : Bool × LruCache κ τ :=
  let (found, c) := c.find k
  (found.isSome, c)

/-- The eviction of `insert_or_assign` and `try_emplace`: the last entry goes when full. -/
def makeRoom (c : LruCache κ τ) : LruCache κ τ :=
  if c.listMap.size = c.capacity then { c with listMap := c.listMap.dropLast } else c

/-- `insert_or_assign`: on a hit the entry, now at the front, takes the value; otherwise the
key is added at the front, after an eviction if full. -/
def insertOrAssign (c : LruCache κ τ) (k : κ) (v : τ) : LruCache κ τ :=
  let (present, c) := c.contains k
  if present then { c with listMap := c.listMap.modify k fun _ => v }
  else
    let c := c.makeRoom
    { c with listMap := c.listMap.insertOrAssignFront k v }

/-- `try_emplace`: nothing on a hit; otherwise the key is added at the front, after an
eviction if full. -/
def tryEmplace (c : LruCache κ τ) (k : κ) (v : τ) : LruCache κ τ :=
  let (present, c) := c.contains k
  if present then c
  else
    let c := c.makeRoom
    { c with listMap := c.listMap.insertOrAssignFront k v }

def extract (c : LruCache κ τ) (k : κ) : Option τ × LruCache κ τ :=
  let (v, m) := c.listMap.extract k
  (v, { c with listMap := m })

def erase (c : LruCache κ τ) (k : κ) : LruCache κ τ := { c with listMap := c.listMap.erase k }

/-! ### What the operations do to one key, and to the size -/

omit [DecidableEq κ] in
theorem ext {c c' : LruCache κ τ} (capacity : c.capacity = c'.capacity)
    (listMap : c.listMap = c'.listMap) : c = c' := by
  cases c
  cases c'
  cases capacity
  cases listMap
  rfl

theorem find_fst (c : LruCache κ τ) (k : κ) : (c.find k).1 = c.listMap.find? k := rfl

@[simp] theorem find?_find (c : LruCache κ τ) (k j : κ) :
    (c.find k).2.listMap.find? j = c.listMap.find? j :=
  InsertionMap.find?_moveToFront _ _ _

@[simp] theorem size_find (c : LruCache κ τ) (k : κ) :
    (c.find k).2.listMap.size = c.listMap.size :=
  InsertionMap.size_moveToFront _ _

@[simp] theorem capacity_find (c : LruCache κ τ) (k : κ) : (c.find k).2.capacity = c.capacity :=
  rfl

theorem find?_makeRoom {c : LruCache κ τ} {j : κ} {v : τ}
    (h : c.makeRoom.listMap.find? j = some v) : c.listMap.find? j = some v := by
  unfold makeRoom at h
  split at h
  · exact InsertionMap.find?_of_find?_dropLast h
  · exact h

omit [DecidableEq κ] in
/-- Room is made for one more entry. -/
theorem size_makeRoom {c : LruCache κ τ} (h : c.listMap.size ≤ c.capacity) :
    c.makeRoom.listMap.size < c.capacity := by
  have := c.capacity_pos
  unfold makeRoom
  split
  · next full =>
    rw [InsertionMap.size_dropLast]
    omega
  · next notFull => omega

omit [DecidableEq κ] in
@[simp] theorem capacity_makeRoom (c : LruCache κ τ) : c.makeRoom.capacity = c.capacity := by
  unfold makeRoom
  split <;> rfl

/-- After `insert_or_assign k v`, `k` has `v` and every other key what it had, unless evicted. -/
theorem find?_insertOrAssign {c : LruCache κ τ} {k j : κ} {v w : τ}
    (h : (c.insertOrAssign k v).listMap.find? j = some w) :
    (j = k ∧ w = v) ∨ (j ≠ k ∧ c.listMap.find? j = some w) := by
  unfold insertOrAssign contains at h
  dsimp only at h
  by_cases same : j = k
  · subst same
    split at h
    · next present =>
      rw [InsertionMap.find?_modify, if_pos rfl, find?_find] at h
      obtain ⟨old, found⟩ := Option.isSome_iff_exists.1 present
      rw [find_fst] at found
      rw [found] at h
      exact .inl ⟨rfl, (Option.some.inj h).symm⟩
    · rw [InsertionMap.find?_insertOrAssignFront, if_pos rfl] at h
      exact .inl ⟨rfl, (Option.some.inj h).symm⟩
  · right
    refine ⟨same, ?_⟩
    split at h
    · rwa [InsertionMap.find?_modify, if_neg same, find?_find] at h
    · rw [InsertionMap.find?_insertOrAssignFront, if_neg same] at h
      exact find?_find c k j ▸ find?_makeRoom h

@[simp] theorem capacity_insertOrAssign (c : LruCache κ τ) (k : κ) (v : τ) :
    (c.insertOrAssign k v).capacity = c.capacity := by
  unfold insertOrAssign contains
  dsimp only
  split <;> simp

theorem size_insertOrAssign_le {c : LruCache κ τ} (k : κ) (v : τ)
    (h : c.listMap.size ≤ c.capacity) : (c.insertOrAssign k v).listMap.size ≤ c.capacity := by
  unfold insertOrAssign contains
  dsimp only
  split
  · rw [InsertionMap.size_modify, size_find]
    exact h
  · have room := size_makeRoom (c := (c.find k).2) (by rw [size_find]; exact h)
    have grown := InsertionMap.size_insertOrAssignFront_le (c.find k).2.makeRoom.listMap k v
    simp only [capacity_find] at room
    exact Nat.le_trans grown (by omega)

/-- After `try_emplace k v`, `k` has its old value or `v`, and every other key what it had,
unless evicted. -/
theorem find?_tryEmplace {c : LruCache κ τ} {k j : κ} {v w : τ}
    (h : (c.tryEmplace k v).listMap.find? j = some w) :
    (j = k ∧ w = (c.listMap.find? k).getD v) ∨ (j ≠ k ∧ c.listMap.find? j = some w) := by
  unfold tryEmplace contains at h
  dsimp only at h
  by_cases same : j = k
  · subst same
    left
    refine ⟨rfl, ?_⟩
    split at h
    · rw [find?_find] at h
      rw [h]
      rfl
    · next absent =>
      rw [InsertionMap.find?_insertOrAssignFront, if_pos rfl] at h
      rw [find_fst, Option.not_isSome_iff_eq_none] at absent
      rw [absent, ← Option.some.inj h]
      rfl
  · right
    refine ⟨same, ?_⟩
    split at h
    · rwa [find?_find] at h
    · rw [InsertionMap.find?_insertOrAssignFront, if_neg same] at h
      exact find?_find c k j ▸ find?_makeRoom h

theorem find?_tryEmplace_self (c : LruCache κ τ) (k : κ) (v : τ) :
    (c.tryEmplace k v).listMap.find? k = some ((c.listMap.find? k).getD v) := by
  unfold tryEmplace contains
  dsimp only
  split
  · next present =>
    rw [find?_find]
    obtain ⟨old, found⟩ := Option.isSome_iff_exists.1 present
    rw [find_fst] at found
    rw [found]
    rfl
  · next absent =>
    rw [InsertionMap.find?_insertOrAssignFront, if_pos rfl]
    rw [find_fst, Option.not_isSome_iff_eq_none] at absent
    rw [absent]
    rfl

@[simp] theorem capacity_tryEmplace (c : LruCache κ τ) (k : κ) (v : τ) :
    (c.tryEmplace k v).capacity = c.capacity := by
  unfold tryEmplace contains
  dsimp only
  split <;> simp

theorem size_tryEmplace_le {c : LruCache κ τ} (k : κ) (v : τ)
    (h : c.listMap.size ≤ c.capacity) : (c.tryEmplace k v).listMap.size ≤ c.capacity := by
  unfold tryEmplace contains
  dsimp only
  split
  · rw [size_find]
    exact h
  · have room := size_makeRoom (c := (c.find k).2) (by rw [size_find]; exact h)
    have grown := InsertionMap.size_insertOrAssignFront_le (c.find k).2.makeRoom.listMap k v
    simp only [capacity_find] at room
    exact Nat.le_trans grown (by omega)

/-- The lookups after the temporary-device step of `SetProperty`: the entry found, or added,
and every other entry as before unless evicted. -/
theorem find?_findOrEmplace {c : LruCache κ τ} (k : κ) (e : τ) :
    let t := if (c.listMap.find? k).isSome then (c.find k).2 else (c.find k).2.tryEmplace k e
    t.listMap.find? k = some ((c.listMap.find? k).getD e) ∧
      ∀ j w, t.listMap.find? j = some w → j = k ∨ c.listMap.find? j = some w := by
  intro t
  by_cases found : (c.listMap.find? k).isSome
  · have same : t = (c.find k).2 := if_pos found
    obtain ⟨old, hold⟩ := Option.isSome_iff_exists.1 found
    rw [same, find?_find, hold]
    exact ⟨rfl, fun j w hj => .inr (by rwa [find?_find] at hj)⟩
  · have added : t = (c.find k).2.tryEmplace k e := if_neg found
    refine ⟨?_, fun j w hj => ?_⟩
    · rw [added, find?_tryEmplace_self, find?_find]
    · rw [added] at hj
      rcases find?_tryEmplace hj with ⟨same, -⟩ | ⟨-, old⟩
      · exact .inl same
      · exact .inr (by rwa [find?_find] at old)

/-- The temporary-device step of `SetProperty` also keeps the capacity and its bound. -/
theorem findOrEmplace {c : LruCache κ τ} (k : κ) (e : τ) (h : c.listMap.size ≤ c.capacity) :
    let t := if (c.listMap.find? k).isSome then (c.find k).2 else (c.find k).2.tryEmplace k e
    t.listMap.find? k = some ((c.listMap.find? k).getD e) ∧
      (∀ j w, t.listMap.find? j = some w → j = k ∨ c.listMap.find? j = some w) ∧
      t.capacity = c.capacity ∧ t.listMap.size ≤ c.capacity := by
  intro t
  refine ⟨(find?_findOrEmplace k e).1, (find?_findOrEmplace k e).2, ?_⟩
  by_cases found : (c.listMap.find? k).isSome
  · have same : t = (c.find k).2 := if_pos found
    rw [same, capacity_find, size_find]
    exact ⟨rfl, h⟩
  · have added : t = (c.find k).2.tryEmplace k e := if_neg found
    have bounded : (c.find k).2.listMap.size ≤ (c.find k).2.capacity := by
      rw [size_find]
      exact h
    rw [added, capacity_tryEmplace]
    exact ⟨rfl, size_tryEmplace_le k e bounded⟩

/-- On a cache that holds at most `k`, the temporary-device step of `SetProperty` leaves `k`
alone in it: the lookup moves nothing, and an insertion into an empty cache evicts nothing. -/
theorem entries_findOrEmplace {c : LruCache κ τ} {k : κ} (e : τ)
    (only : c.listMap.entries = (c.listMap.find? k).toList.map ((k, ·))) :
    let t := if (c.listMap.find? k).isSome then (c.find k).2 else (c.find k).2.tryEmplace k e
    t.listMap.entries = [(k, (c.listMap.find? k).getD e)] := by
  intro t
  cases found : c.listMap.find? k with
  | some v =>
    rw [found] at only
    have same : t = (c.find k).2 := if_pos (by rw [found]; rfl)
    rw [same]
    exact (InsertionMap.entries_moveToFront_of_head only).trans only
  | none =>
    rw [found] at only
    -- the lookup of an empty cache moves nothing, and the insertion evicts nothing
    have looked : ∀ d : LruCache κ τ, d.listMap.entries = [] → (d.find k).2.listMap.entries = [] := by
      intro d empty
      have missing : d.listMap.find? k = none := by simp [InsertionMap.find?, empty]
      show (d.listMap.moveToFront k).entries = []
      unfold InsertionMap.moveToFront
      rw [missing]
      exact empty
    have inserted : ∀ d : LruCache κ τ, d.listMap.entries = [] →
        (d.makeRoom.listMap.insertOrAssignFront k e).entries = [(k, e)] := by
      intro d empty
      have notFull : d.listMap.size ≠ d.capacity := by
        rw [InsertionMap.size, empty]
        exact Nat.ne_of_lt d.capacity_pos
      have notKey : k ∉ d.listMap.keys := by simp [InsertionMap.keys, empty]
      rw [makeRoom, if_neg notFull, InsertionMap.insertOrAssignFront, dif_neg notKey]
      show (k, e) :: d.listMap.entries = _
      rw [empty]
    have added : t = (c.find k).2.tryEmplace k e := if_neg (by rw [found]; simp)
    have absent : ((c.find k).2.find k).1.isSome = false := by
      rw [find_fst, find?_find, found]
      rfl
    rw [added]
    unfold tryEmplace contains
    simp only [absent, Bool.false_eq_true, if_false]
    exact inserted _ (looked _ (looked _ only))

theorem find?_insertOrAssign_self (c : LruCache κ τ) (k : κ) (v : τ) :
    (c.insertOrAssign k v).listMap.find? k = some v := by
  unfold insertOrAssign contains
  dsimp only
  split
  · next present =>
    rw [InsertionMap.find?_modify, if_pos rfl, find?_find]
    obtain ⟨old, found⟩ := Option.isSome_iff_exists.1 present
    rw [find_fst] at found
    rw [found]
    rfl
  · rw [InsertionMap.find?_insertOrAssignFront, if_pos rfl]

end LruCache

/-! ## Sections and properties -/

/-- The properties of one section, in the order they were set. -/
abbrev Properties := InsertionMap (List Char) (List Char)

/-- `TrimAfterNewLine`: everything from the first newline on is dropped. -/
def trimAfterNewLine (s : List Char) : List Char := s.takeWhile (· ≠ '\n')

def isHexDigit (c : Char) : Bool := c.isDigit ∨ ('a' ≤ c ∧ c ≤ 'f') ∨ ('A' ≤ c ∧ c ≤ 'F')

/-- A two-character token that `strtol(token, &end, 16)` reads to its end: two hex digits, or
a blank or a sign before one. -/
def strtolReadsWhole : List Char → Bool
  | [a, b] => (isHexDigit a && isHexDigit b) || ((isSpace a || a = '+' || a = '-') && isHexDigit b)
  | _ => false

/-- `Address::IsValidAddress`, through `Address::FromString`: seventeen characters, six tokens
between colons, each of two characters that `strtol` reads whole. -/
def isValidAddress (s : List Char) : Bool :=
  s.length = 17 ∧ (s.splitOn ':').length = 6 ∧ (s.splitOn ':').all strtolReadsWhole

/-- `ConfigCache::IsDeviceSection`. -/
def isDeviceSection (sectionName : List Char) : Bool := isValidAddress sectionName

/-- `Device::kLinkKeyProperties`, the persistent property set of the stack's caches. -/
def linkKeyProperties : List (List Char) :=
  ["LinkKey", "LE_KEY_PENC", "LE_KEY_PID", "LE_KEY_PCSRK", "LE_KEY_LENC", "LE_KEY_LCSRK"].map
    String.toList

/-! ## The cache -/

structure ConfigCache where
  persistentPropertyNames : List (List Char)
  informationSections : InsertionMap (List Char) Properties
  persistentDevices : InsertionMap (List Char) Properties
  temporaryDevices : LruCache (List Char) Properties

namespace ConfigCache

/-- The constructor: three empty maps. -/
def new (tempDeviceCapacity : Nat) (capacity_pos : 0 < tempDeviceCapacity)
    (persistentPropertyNames : List (List Char)) : ConfigCache :=
  ⟨persistentPropertyNames, .empty, .empty, ⟨tempDeviceCapacity, capacity_pos, .empty⟩⟩

def isPersistentProperty (c : ConfigCache) (property : List Char) : Bool :=
  property ∈ c.persistentPropertyNames

/-- The part of `SetProperty` for a device section: a persistent property makes the section
persistent (moved from the temporary devices, or new); then the property is set in the
persistent section, or in the temporary one, found or added. -/
def setDeviceProperty (c : ConfigCache) (sectionName property value : List Char) : ConfigCache :=
  let c :=
    if c.persistentDevices.find? sectionName = none ∧ c.isPersistentProperty property then
      match c.temporaryDevices.extract sectionName with
      | (some sectionProperties, temporaryDevices) =>
        { c with
          temporaryDevices := temporaryDevices
          persistentDevices := c.persistentDevices.tryEmplaceBack sectionName sectionProperties }
      | (none, _) =>
        { c with persistentDevices := c.persistentDevices.tryEmplaceBack sectionName .empty }
    else c
  if sectionName ∈ c.persistentDevices.keys then
    { c with persistentDevices :=
        c.persistentDevices.modify sectionName fun props => props.insertOrAssign property value }
  else
    let (found, temporaryDevices) := c.temporaryDevices.find sectionName
    let temporaryDevices :=
      if found.isSome then temporaryDevices else temporaryDevices.tryEmplace sectionName .empty
    { c with temporaryDevices := { temporaryDevices with
        listMap := temporaryDevices.listMap.modify sectionName fun props =>
          props.insertOrAssign property value } }

/-- `SetProperty`; `none` where an assertion fails (an empty section or property name). -/
def setProperty (c : ConfigCache) (sectionName property value : List Char) : Option ConfigCache :=
  let sectionName := trimAfterNewLine sectionName
  let property := trimAfterNewLine property
  let value := trimAfterNewLine value
  if sectionName = [] ∨ property = [] then none
  else if !isDeviceSection sectionName then
    let informationSections := c.informationSections.tryEmplaceBack sectionName .empty
    some { c with informationSections :=
      informationSections.modify sectionName fun props => props.insertOrAssign property value }
  else some (c.setDeviceProperty sectionName property value)

/-- `RemoveSection`: sections are in at most one map, so it stops at the first that has it. -/
def removeSection (c : ConfigCache) (sectionName : List Char) : Bool × ConfigCache :=
  match c.informationSections.extract sectionName with
  | (some _, informationSections) => (true, { c with informationSections := informationSections })
  | (none, _) =>
    match c.persistentDevices.extract sectionName with
    | (some _, persistentDevices) => (true, { c with persistentDevices := persistentDevices })
    | (none, _) =>
      let (removed, temporaryDevices) := c.temporaryDevices.extract sectionName
      (removed.isSome, { c with temporaryDevices := temporaryDevices })

/-- `RemoveProperty`: a section left empty is removed, and a persistent device that loses a
persistent property moves to the temporary devices. -/
def removeProperty (c : ConfigCache) (sectionName property : List Char) : Bool × ConfigCache :=
  match c.informationSections.find? sectionName with
  | some props =>
    let (value, props) := props.extract property
    let informationSections :=
      if props.size = 0 then c.informationSections.erase sectionName
      else c.informationSections.modify sectionName fun _ => props
    (value.isSome, { c with informationSections := informationSections })
  | none =>
    match c.persistentDevices.find? sectionName with
    | some props =>
      let (value, props) := props.extract property
      if props.size = 0 then
        (value.isSome, { c with persistentDevices := c.persistentDevices.erase sectionName })
      else if value.isSome ∧ c.isPersistentProperty property then
        -- move unpaired device
        (true, { c with persistentDevices := c.persistentDevices.erase sectionName,
                        temporaryDevices := c.temporaryDevices.insertOrAssign sectionName props })
      else
        (value.isSome, { c with persistentDevices :=
          c.persistentDevices.modify sectionName fun _ => props })
    | none =>
      let (found, temporaryDevices) := c.temporaryDevices.find sectionName
      match found with
      | some props =>
        let (value, props) := props.extract property
        let temporaryDevices :=
          if props.size = 0 then temporaryDevices.erase sectionName
          else { temporaryDevices with
            listMap := temporaryDevices.listMap.modify sectionName fun _ => props }
        (value.isSome, { c with temporaryDevices := temporaryDevices })
      | none => (false, { c with temporaryDevices := temporaryDevices })

/-- `RemoveSectionWithProperty`: every section holding the property goes. -/
def removeSectionWithProperty (c : ConfigCache) (property : List Char) : ConfigCache :=
  let keep (_ : List Char) (props : Properties) : Bool := !props.contains property
  { c with informationSections := c.informationSections.filter keep,
           persistentDevices := c.persistentDevices.filter keep,
           temporaryDevices := { c.temporaryDevices with
             listMap := c.temporaryDevices.listMap.filter keep } }

end ConfigCache

/-! ## Mutations -/

inductive EntryType
  | set | removeProperty | removeSection
  deriving DecidableEq, Repr

/-- `MutationEntry`, without its property type, which `Commit` does not read. -/
structure MutationEntry where
  entryType : EntryType
  sectionName : List Char
  property : List Char
  value : List Char
  deriving DecidableEq, Repr

namespace ConfigCache

/-- One entry of `Commit`. -/
def applyEntry (c : ConfigCache) (entry : MutationEntry) : Option ConfigCache :=
  match entry.entryType with
  | .set => c.setProperty entry.sectionName entry.property entry.value
  | .removeProperty => some (c.removeProperty entry.sectionName entry.property).2
  | .removeSection => some (c.removeSection entry.sectionName).2

/-- `Commit`: the entries in order. -/
def commit (c : ConfigCache) : List MutationEntry → Option ConfigCache
  | [] => some c
  | entry :: rest => (c.applyEntry entry).bind fun c => c.commit rest

/-- The calls the cache answers. -/
inductive Event
  | setProperty (sectionName property value : List Char)
  | removeProperty (sectionName property : List Char)
  | removeSection (sectionName : List Char)
  | removeSectionWithProperty (property : List Char)
  | commit (entries : List MutationEntry)

/-- One call; `none` where an assertion fails. -/
def step (c : ConfigCache) : Event → Option ConfigCache
  | .setProperty sectionName property value => c.setProperty sectionName property value
  | .removeProperty sectionName property => some (c.removeProperty sectionName property).2
  | .removeSection sectionName => some (c.removeSection sectionName).2
  | .removeSectionWithProperty property => some (c.removeSectionWithProperty property)
  | .commit entries => c.commit entries

end ConfigCache

end Storage

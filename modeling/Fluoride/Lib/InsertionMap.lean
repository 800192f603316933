import Mathlib.Data.List.Nodup

/-!
# Maps that keep the order of their entries

An association list with one entry per key, in the order the entries were placed: a value is
assigned in place, a new key goes to the back or to the front, and an entry may be moved to the
front (a lookup of a least-recently-used cache does that). What the proofs above use is the
lookup of one key after each operation (`find?_insertOrAssign` and the rest, all of the form
"this key changes so, every other key is as before"), the membership of keys, and the size.
-/

/-- Entries in order, with no key twice. -/
structure InsertionMap (κ τ : Type) where
  entries : List (κ × τ)
  nodup : (entries.map Prod.fst).Nodup

namespace InsertionMap

variable {κ τ : Type} [DecidableEq κ]

def keys (m : InsertionMap κ τ) : List κ := m.entries.map Prod.fst

def size (m : InsertionMap κ τ) : Nat := m.entries.length

def empty : InsertionMap κ τ := ⟨[], List.nodup_nil⟩

def find? (m : InsertionMap κ τ) (k : κ) : Option τ :=
  (m.entries.find? fun e => e.1 = k).map Prod.snd

def contains (m : InsertionMap κ τ) (k : κ) : Bool := k ∈ m.keys

/-- The value of `k` changed in place by `f`; nothing else moves. -/
def modify (m : InsertionMap κ τ) (k : κ) (f : τ → τ) : InsertionMap κ τ :=
  ⟨m.entries.map (fun e => if e.1 = k then (e.1, f e.2) else e), by
    rw [List.map_map]
    convert m.nodup using 2
    funext e
    by_cases h : e.1 = k <;> simp [h]⟩

def erase (m : InsertionMap κ τ) (k : κ) : InsertionMap κ τ :=
  ⟨m.entries.filter (fun e => e.1 ≠ k), (List.filter_sublist.map Prod.fst).nodup m.nodup⟩

def filter (m : InsertionMap κ τ) (p : κ → τ → Bool) : InsertionMap κ τ :=
  ⟨m.entries.filter (fun e => p e.1 e.2), (List.filter_sublist.map Prod.fst).nodup m.nodup⟩

/-- The entry taken out, and the map without it. -/
def extract (m : InsertionMap κ τ) (k : κ) : Option τ × InsertionMap κ τ := (m.find? k, m.erase k)

def pushBack (m : InsertionMap κ τ) (k : κ) (v : τ) (fresh : k ∉ m.keys) : InsertionMap κ τ :=
  ⟨m.entries ++ [(k, v)], by
    rw [List.map_append, List.nodup_append]
    refine ⟨m.nodup, List.nodup_singleton _, fun a present b hb => ?_⟩
    rw [List.mem_singleton.1 hb]
    rintro rfl
    exact fresh present⟩

def pushFront (m : InsertionMap κ τ) (k : κ) (v : τ) (fresh : k ∉ m.keys) : InsertionMap κ τ :=
  ⟨(k, v) :: m.entries, List.nodup_cons.2 ⟨fresh, m.nodup⟩⟩

/-- Assign in place, or add at the back. -/
def insertOrAssign (m : InsertionMap κ τ) (k : κ) (v : τ) : InsertionMap κ τ :=
  if fresh : k ∈ m.keys then m.modify k fun _ => v else m.pushBack k v fresh

/-- Assign in place, or add at the front. -/
def insertOrAssignFront (m : InsertionMap κ τ) (k : κ) (v : τ) : InsertionMap κ τ :=
  if fresh : k ∈ m.keys then m.modify k fun _ => v else m.pushFront k v fresh

/-- Add at the back unless the key is there. -/
def tryEmplaceBack (m : InsertionMap κ τ) (k : κ) (v : τ) : InsertionMap κ τ :=
  if fresh : k ∈ m.keys then m else m.pushBack k v fresh

/-- The entry of `k`, if any, moved to the front. -/
def moveToFront (m : InsertionMap κ τ) (k : κ) : InsertionMap κ τ :=
  match m.find? k with
  | some v => (m.erase k).pushFront k v (by simp [keys, erase])
  | none => m

def dropLast (m : InsertionMap κ τ) : InsertionMap κ τ :=
  ⟨m.entries.dropLast, ((List.dropLast_sublist _).map Prod.fst).nodup m.nodup⟩

/-! ## Lookup -/

theorem find?_eq_none_of_not_mem {m : InsertionMap κ τ} {k : κ} (absent : k ∉ m.keys) :
    m.find? k = none := by
  rw [find?, Option.map_eq_none_iff, List.find?_eq_none]
  intro e he same
  exact absent (List.mem_map.2 ⟨e, he, by simpa using same⟩)

theorem mem_keys_iff_isSome {m : InsertionMap κ τ} {k : κ} :
    k ∈ m.keys ↔ (m.find? k).isSome := by
  constructor
  · intro present
    obtain ⟨e, he, rfl⟩ := List.mem_map.1 present
    simp only [find?, Option.isSome_map]
    exact List.find?_isSome.2 ⟨e, he, by simp⟩
  · intro found
    by_contra absent
    rw [find?_eq_none_of_not_mem absent] at found
    cases found

theorem find?_eq_some_iff {m : InsertionMap κ τ} {k : κ} {v : τ} :
    m.find? k = some v ↔ (k, v) ∈ m.entries := by
  obtain ⟨entries, nodup⟩ := m
  simp only [find?]
  induction entries with
  | nil => simp
  | cons e rest ih =>
    obtain ⟨fresh, nodupRest⟩ := List.nodup_cons.1 nodup
    by_cases here : e.1 = k
    · -- the key is at the head, and nowhere in the rest
      have notLater : (k, v) ∉ rest := fun later =>
        fresh (here ▸ List.mem_map.2 ⟨_, later, rfl⟩)
      obtain ⟨a, b⟩ := e
      simp only at here
      subst here
      simp [notLater, eq_comm]
    · rw [List.find?_cons_of_neg (by simpa using here), ih nodupRest, List.mem_cons]
      constructor
      · exact Or.inr
      · rintro (rfl | later)
        · exact absurd rfl here
        · exact later

@[simp] theorem find?_empty (k : κ) : (empty : InsertionMap κ τ).find? k = none := rfl

theorem find?_modify (m : InsertionMap κ τ) (k j : κ) (f : τ → τ) :
    (m.modify k f).find? j = if j = k then (m.find? k).map f else m.find? j := by
  simp only [find?, modify, List.find?_map]
  have keyKept : ((fun e : κ × τ => decide (e.1 = j)) ∘ fun e =>
      if e.1 = k then (e.1, f e.2) else e) = fun e => decide (e.1 = j) := by
    funext e
    by_cases h : e.1 = k <;> simp [h]
  rw [keyKept]
  split
  · next same =>
    subst same
    cases hf : m.entries.find? (fun e => decide (e.1 = j)) with
    | none => rfl
    | some e =>
      have : e.1 = j := by simpa using List.find?_some hf
      simp [this]
  · next other =>
    cases hf : m.entries.find? (fun e => decide (e.1 = j)) with
    | none => rfl
    | some e =>
      have : e.1 = j := by simpa using List.find?_some hf
      simp [this, other]

theorem find?_erase (m : InsertionMap κ τ) (k j : κ) :
    (m.erase k).find? j = if j = k then none else m.find? j := by
  simp only [find?, erase, List.find?_filter]
  split
  · next same =>
    subst same
    rw [Option.map_eq_none_iff, List.find?_eq_none]
    intro e _
    simp only [decide_eq_true_eq, not_and]
    exact fun diff same => diff same
  · next other =>
    congr 1
    congr 1
    funext e
    by_cases h : e.1 = j
    · simp [h, other]
    · simp [h]

theorem find?_pushBack (m : InsertionMap κ τ) (k j : κ) (v : τ) (fresh : k ∉ m.keys) :
    (m.pushBack k v fresh).find? j = if j = k then some v else m.find? j := by
  simp only [find?, pushBack, List.find?_append, Option.map_or]
  split
  · next same =>
    subst same
    rw [show (m.entries.find? fun e => decide (e.1 = j)).map Prod.snd = m.find? j from rfl,
      find?_eq_none_of_not_mem fresh]
    simp
  · next other =>
    cases m.entries.find? (fun e => decide (e.1 = j)) with
    | none => simp [Ne.symm other]
    | some e => rfl

theorem find?_pushFront (m : InsertionMap κ τ) (k j : κ) (v : τ) (fresh : k ∉ m.keys) :
    (m.pushFront k v fresh).find? j = if j = k then some v else m.find? j := by
  simp only [find?, pushFront, List.find?_cons]
  by_cases same : j = k
  · subst same
    simp
  · simp [Ne.symm same, same]

theorem find?_insertOrAssign (m : InsertionMap κ τ) (k j : κ) (v : τ) :
    (m.insertOrAssign k v).find? j = if j = k then some v else m.find? j := by
  unfold insertOrAssign
  split
  · next present =>
    rw [find?_modify]
    split
    · obtain ⟨w, hw⟩ := Option.isSome_iff_exists.1 (mem_keys_iff_isSome.1 present)
      rw [hw]
      rfl
    · rfl
  · exact find?_pushBack _ _ _ _ _

theorem find?_insertOrAssignFront (m : InsertionMap κ τ) (k j : κ) (v : τ) :
    (m.insertOrAssignFront k v).find? j = if j = k then some v else m.find? j := by
  unfold insertOrAssignFront
  split
  · next present =>
    rw [find?_modify]
    split
    · obtain ⟨w, hw⟩ := Option.isSome_iff_exists.1 (mem_keys_iff_isSome.1 present)
      rw [hw]
      rfl
    · rfl
  · exact find?_pushFront _ _ _ _ _

theorem find?_tryEmplaceBack (m : InsertionMap κ τ) (k j : κ) (v : τ) :
    (m.tryEmplaceBack k v).find? j =
      if j = k then some ((m.find? k).getD v) else m.find? j := by
  unfold tryEmplaceBack
  split
  · next present =>
    split
    · next same =>
      subst same
      obtain ⟨w, hw⟩ := Option.isSome_iff_exists.1 (mem_keys_iff_isSome.1 present)
      rw [hw]
      rfl
    · rfl
  · next absent =>
    rw [find?_pushBack, find?_eq_none_of_not_mem absent]
    rfl

@[simp] theorem find?_moveToFront (m : InsertionMap κ τ) (k j : κ) :
    (m.moveToFront k).find? j = m.find? j := by
  unfold moveToFront
  split
  · next v found =>
    rw [find?_pushFront, find?_erase]
    split
    · next same => rw [same, found]
    · rfl
  · rfl

theorem find?_filter (m : InsertionMap κ τ) (p : κ → τ → Bool) (j : κ) :
    (m.filter p).find? j = (m.find? j).filter (p j) := by
  cases found : m.find? j with
  | none =>
    apply find?_eq_none_of_not_mem
    intro present
    obtain ⟨e, he, rfl⟩ := List.mem_map.1 present
    have := find?_eq_some_iff.2 (List.mem_filter.1 he).1
    rw [found] at this
    cases this
  | some v =>
    have entry := find?_eq_some_iff.1 found
    by_cases keep : p j v
    · rw [Option.filter_some, if_pos keep]
      exact find?_eq_some_iff.2 (List.mem_filter.2 ⟨entry, keep⟩)
    · rw [Option.filter_some, if_neg keep]
      cases kept : (m.filter p).find? j with
      | none => rfl
      | some w =>
        obtain ⟨entry', keep'⟩ := List.mem_filter.1 (find?_eq_some_iff.1 kept)
        rw [find?_eq_some_iff.2 entry', Option.some.injEq] at found
        subst found
        exact absurd keep' keep

/-- Adding a key if absent and then changing its value, as a lookup. -/
theorem find?_tryEmplaceBack_modify (m : InsertionMap κ τ) (k j : κ) (v : τ) (f : τ → τ) :
    ((m.tryEmplaceBack k v).modify k f).find? j =
      if j = k then some (f ((m.find? k).getD v)) else m.find? j := by
  rw [find?_modify, find?_tryEmplaceBack, if_pos rfl]
  split
  · rfl
  · rw [find?_tryEmplaceBack, if_neg ‹_›]

theorem find?_of_find?_dropLast {m : InsertionMap κ τ} {j : κ} {v : τ}
    (h : m.dropLast.find? j = some v) : m.find? j = some v :=
  find?_eq_some_iff.2 ((List.dropLast_sublist _).subset (find?_eq_some_iff.1 h))

/-! ## Size -/

theorem size_modify (m : InsertionMap κ τ) (k : κ) (f : τ → τ) : (m.modify k f).size = m.size :=
  List.length_map _

theorem size_erase_le (m : InsertionMap κ τ) (k : κ) : (m.erase k).size ≤ m.size :=
  List.length_filter_le _ _

omit [DecidableEq κ] in
theorem size_dropLast (m : InsertionMap κ τ) : m.dropLast.size = m.size - 1 :=
  List.length_dropLast

theorem size_insertOrAssignFront_le (m : InsertionMap κ τ) (k : κ) (v : τ) :
    (m.insertOrAssignFront k v).size ≤ m.size + 1 := by
  unfold insertOrAssignFront
  split
  · rw [size_modify]
    omega
  · exact Nat.le_refl _

omit [DecidableEq κ] in
theorem size_pushFront (m : InsertionMap κ τ) (k : κ) (v : τ) (fresh : k ∉ m.keys) :
    (m.pushFront k v fresh).size = m.size + 1 := rfl

omit [DecidableEq κ] in
theorem size_filter_le (m : InsertionMap κ τ) (p : κ → τ → Bool) : (m.filter p).size ≤ m.size :=
  List.length_filter_le _ _

theorem size_pos_of_find? {m : InsertionMap κ τ} {k : κ} {v : τ} (found : m.find? k = some v) :
    0 < m.size :=
  List.length_pos_of_mem (find?_eq_some_iff.1 found)

theorem keys_erase (m : InsertionMap κ τ) (k : κ) : (m.erase k).keys = m.keys.erase k := by
  rw [keys, keys, m.nodup.erase_eq_filter, erase, List.filter_map]
  congr 1
  apply List.filter_congr
  intro e _
  by_cases h : e.1 = k <;> simp [h]

theorem size_erase_of_mem {m : InsertionMap κ τ} {k : κ} (present : k ∈ m.keys) :
    (m.erase k).size = m.size - 1 := by
  -- a map has as many entries as keys, and `k` is one of them, once
  have byKeys : ∀ m : InsertionMap κ τ, m.size = m.keys.length := fun m => (List.length_map _).symm
  rw [byKeys, byKeys, keys_erase, List.length_erase_of_mem present]

@[simp] theorem size_moveToFront (m : InsertionMap κ τ) (k : κ) :
    (m.moveToFront k).size = m.size := by
  unfold moveToFront
  split
  · next v found =>
    have present : k ∈ m.keys := mem_keys_iff_isSome.2 (by rw [found]; rfl)
    rw [size_pushFront, size_erase_of_mem present]
    have := size_pos_of_find? found
    omega
  · rfl

/-! ## Keys -/

theorem mem_keys_insertOrAssign_iff {m : InsertionMap κ τ} {k j : κ} {v : τ} :
    j ∈ (m.insertOrAssign k v).keys ↔ j = k ∨ j ∈ m.keys := by
  rw [mem_keys_iff_isSome, mem_keys_iff_isSome, find?_insertOrAssign]
  by_cases same : j = k <;> simp [same]

theorem mem_keys_erase_iff {m : InsertionMap κ τ} {k j : κ} :
    j ∈ (m.erase k).keys ↔ j ∈ m.keys ∧ j ≠ k := by
  rw [mem_keys_iff_isSome, mem_keys_iff_isSome, find?_erase]
  by_cases same : j = k <;> simp [same]

theorem size_insertOrAssign_pos (m : InsertionMap κ τ) (k : κ) (v : τ) :
    0 < (m.insertOrAssign k v).size :=
  size_pos_of_find? (v := v) (by rw [find?_insertOrAssign, if_pos rfl])

/-! ## Properties of every entry -/

/-- Every entry satisfies `P`. -/
def All (m : InsertionMap κ τ) (P : κ → τ → Prop) : Prop := ∀ k v, m.find? k = some v → P k v

theorem All.empty (P : κ → τ → Prop) : (empty : InsertionMap κ τ).All P := by
  intro k v h
  cases h

theorem All.mem {m : InsertionMap κ τ} {P : κ → τ → Prop} (h : m.All P) {e : κ × τ}
    (mem : e ∈ m.entries) : P e.1 e.2 :=
  h e.1 e.2 (find?_eq_some_iff.2 mem)

theorem All.imp {m : InsertionMap κ τ} {P Q : κ → τ → Prop} (h : m.All P)
    (imp : ∀ k v, m.find? k = some v → P k v → Q k v) : m.All Q :=
  fun k v found => imp k v found (h k v found)

theorem All.erase {m : InsertionMap κ τ} {P : κ → τ → Prop} (h : m.All P) (k : κ) :
    (m.erase k).All P := by
  intro j v found
  rw [find?_erase] at found
  split at found
  · cases found
  · exact h j v found

theorem All.filter {m : InsertionMap κ τ} {P : κ → τ → Prop} (h : m.All P)
    (p : κ → τ → Bool) : (m.filter p).All P := by
  intro j v found
  rw [find?_filter, Option.filter_eq_some_iff] at found
  exact h j v found.1

theorem All.modify {m : InsertionMap κ τ} {P : κ → τ → Prop} (h : m.All P) {k : κ}
    {f : τ → τ} (changed : ∀ v, m.find? k = some v → P k (f v)) : (m.modify k f).All P := by
  intro j v found
  rw [find?_modify] at found
  split at found
  · next same =>
    subst same
    obtain ⟨old, oldFound, rfl⟩ := Option.map_eq_some_iff.1 found
    exact changed old oldFound
  · exact h j v found

theorem All.insertOrAssign {m : InsertionMap κ τ} {P : κ → τ → Prop} (h : m.All P) {k : κ}
    {v : τ} (new : P k v) : (m.insertOrAssign k v).All P := by
  intro j w found
  rw [find?_insertOrAssign] at found
  split at found
  · next same =>
    subst same
    rw [← Option.some.inj found]
    exact new
  · exact h j w found

theorem All.tryEmplaceBack_modify {m : InsertionMap κ τ} {P : κ → τ → Prop} (h : m.All P)
    {k : κ} {v : τ} {f : τ → τ} (changed : P k (f ((m.find? k).getD v))) :
    ((m.tryEmplaceBack k v).modify k f).All P := by
  intro j w found
  rw [find?_tryEmplaceBack_modify] at found
  split at found
  · next same =>
    subst same
    rw [← Option.some.inj found]
    exact changed
  · exact h j w found

/-! ## The order of the entries

Where the order matters (a map written out and read back), a map is known by its entries. -/

omit [DecidableEq κ] in
theorem ext {m m' : InsertionMap κ τ} (same : m.entries = m'.entries) : m = m' := by
  cases m
  cases m'
  cases same
  rfl

theorem tryEmplaceBack_of_mem {m : InsertionMap κ τ} {k : κ} (present : k ∈ m.keys) (v : τ) :
    m.tryEmplaceBack k v = m :=
  dif_pos present

theorem modify_of_not_mem {m : InsertionMap κ τ} {k : κ} (absent : k ∉ m.keys) (f : τ → τ) :
    m.modify k f = m := by
  apply ext
  apply List.map_congr_left (g := id) (fun e mem => ?_) |>.trans (List.map_id _)
  have other : e.1 ≠ k := fun same => absent (same ▸ List.mem_map_of_mem mem)
  rw [if_neg other, id]

theorem modify_id (m : InsertionMap κ τ) (k : κ) : m.modify k (fun v => v) = m := by
  apply ext
  apply List.map_id''
  intro e
  by_cases same : e.1 = k
  · rw [if_pos same]
  · rw [if_neg same]

@[simp] theorem keys_modify (m : InsertionMap κ τ) (k : κ) (f : τ → τ) :
    (m.modify k f).keys = m.keys := by
  simp only [keys, modify, List.map_map]
  apply List.map_congr_left
  intro e _
  by_cases same : e.1 = k <;> simp [same]

theorem modify_modify (m : InsertionMap κ τ) (k : κ) (f g : τ → τ) :
    (m.modify k f).modify k g = m.modify k (g ∘ f) := by
  apply ext
  simp only [modify, List.map_map]
  apply List.map_congr_left
  intro e _
  by_cases same : e.1 = k <;> simp [same]

/-- A new key goes to the back, and a change made to it there stays there. -/
theorem entries_tryEmplaceBack_modify {m : InsertionMap κ τ} {k : κ} (absent : k ∉ m.keys)
    (v : τ) (f : τ → τ) :
    ((m.tryEmplaceBack k v).modify k f).entries = m.entries ++ [(k, f v)] := by
  have unchanged := congrArg entries (modify_of_not_mem absent f)
  rw [tryEmplaceBack, dif_neg absent]
  simp only [modify, pushBack, List.map_append, List.map_cons, List.map_nil] at unchanged ⊢
  rw [unchanged, if_true]

/-- The entries of a list assigned one after the other. -/
def insertOrAssignAll (m : InsertionMap κ τ) (l : List (κ × τ)) : InsertionMap κ τ :=
  l.foldl (fun m e => m.insertOrAssign e.1 e.2) m

/-- Assigning keys that are not there yet adds them at the back, in order. -/
theorem entries_insertOrAssignAll (m : InsertionMap κ τ) (l : List (κ × τ))
    (fresh : (m.keys ++ l.map Prod.fst).Nodup) : (m.insertOrAssignAll l).entries = m.entries ++ l := by
  unfold insertOrAssignAll
  induction l generalizing m with
  | nil => simp
  | cons e l ih =>
    have absent : e.1 ∉ m.keys := by
      intro present
      simp only [List.map_cons] at fresh
      exact List.disjoint_of_nodup_append fresh present List.mem_cons_self
    have pushed : (m.insertOrAssign e.1 e.2).entries = m.entries ++ [e] := by
      rw [insertOrAssign, dif_neg absent]
      rfl
    have fresh' : ((m.insertOrAssign e.1 e.2).keys ++ l.map Prod.fst).Nodup := by
      rw [keys, pushed, List.map_append, List.append_assoc]
      simpa [keys] using fresh
    rw [List.foldl_cons, ih _ fresh', pushed, List.append_assoc, List.singleton_append]

/-- A map is rebuilt from its entries by assigning them in order. -/
theorem empty_insertOrAssignAll_entries (m : InsertionMap κ τ) :
    empty.insertOrAssignAll m.entries = m :=
  ext (by rw [entries_insertOrAssignAll _ _ (by simpa [keys, empty] using m.nodup)]; rfl)

omit [DecidableEq κ] in
theorem not_mem_keys_of_nodup_append {m : InsertionMap κ τ} {e : κ × τ} {rest : List (κ × τ)}
    (fresh : (m.keys ++ (e :: rest).map Prod.fst).Nodup) : e.1 ∉ m.keys :=
  fun present => List.disjoint_of_nodup_append fresh present (by simp)

omit [DecidableEq κ] in
/-- Keys still to be added stay fresh when the first of them has been added at the back. -/
theorem nodup_keys_append_of_entries {m m' : InsertionMap κ τ} {e : κ × τ} {rest : List (κ × τ)}
    (fresh : (m.keys ++ (e :: rest).map Prod.fst).Nodup) (entries : m'.entries = m.entries ++ [e]) :
    (m'.keys ++ rest.map Prod.fst).Nodup := by
  rw [keys, entries, List.map_append, List.append_assoc]
  simpa [keys] using fresh

/-- Moving the front entry to the front leaves the map as it is. -/
theorem entries_moveToFront_of_head {m : InsertionMap κ τ} {k : κ} {v : τ}
    {rest : List (κ × τ)} (front : m.entries = (k, v) :: rest) :
    (m.moveToFront k).entries = m.entries := by
  have found : m.find? k = some v := by
    simp [find?, front]
  have others : ∀ e ∈ rest, e.1 ≠ k := by
    have nodup := m.nodup
    rw [front, List.map_cons, List.nodup_cons] at nodup
    exact fun e mem same => nodup.1 (List.mem_map.2 ⟨e, mem, same⟩)
  unfold moveToFront
  rw [found]
  show (k, v) :: (m.entries.filter fun e => e.1 ≠ k) = m.entries
  rw [front, List.filter_cons_of_neg (by simp),
    List.filter_eq_self.2 fun e mem => by simpa using others e mem]

/-- A map that holds at most the key `k` is empty without it. -/
theorem entries_erase_of_only {m : InsertionMap κ τ} {k : κ}
    (only : m.entries = (m.find? k).toList.map ((k, ·))) : (m.erase k).entries = [] := by
  show m.entries.filter (fun e => e.1 ≠ k) = []
  rw [only]
  cases m.find? k <;> simp

/-! ## The entries as an association list

With one entry per key, the entries are an association list: a lookup is `List.lookup`, and
taking a key out is `List.eraseP` of its first entry. -/

theorem find?_eq_lookup (m : InsertionMap κ τ) (k : κ) : m.find? k = m.entries.lookup k := by
  rw [find?]
  generalize m.entries = entries
  induction entries with
  | nil => rfl
  | cons e rest ih =>
    obtain ⟨a, b⟩ := e
    by_cases same : a = k
    · subst same
      simp
    · rw [List.find?_cons_of_neg (by simpa using same), ih, List.lookup_cons,
        beq_false_of_ne (Ne.symm same)]

theorem filter_ne_eq_eraseP (m : InsertionMap κ τ) (k : κ) :
    m.entries.filter (fun e => e.1 ≠ k) = m.entries.eraseP (fun e => e.1 == k) := by
  obtain ⟨entries, nodup⟩ := m
  induction entries with
  | nil => rfl
  | cons e rest ih =>
    obtain ⟨fresh, nodupRest⟩ := List.nodup_cons.1 nodup
    by_cases here : e.1 = k
    · -- the first entry is the only one of `k`
      rw [List.filter_cons_of_neg (by simpa using here),
        List.eraseP_cons_of_pos (by simpa using here)]
      refine List.filter_eq_self.2 fun e' mem => ?_
      have other : e'.1 ≠ k := fun same => fresh (here ▸ same ▸ List.mem_map_of_mem mem)
      simpa using other
    · rw [List.filter_cons_of_pos (by simpa using here),
        List.eraseP_cons_of_neg (by simpa using here), ih nodupRest]

theorem entries_erase (m : InsertionMap κ τ) (k : κ) :
    (m.erase k).entries = m.entries.eraseP (fun e => e.1 == k) :=
  filter_ne_eq_eraseP m k

/-- A found key moved to the front: its entry first, then the others in order. -/
theorem entries_moveToFront {m : InsertionMap κ τ} {k : κ} {v : τ} (found : m.find? k = some v) :
    (m.moveToFront k).entries = (k, v) :: m.entries.eraseP (fun e => e.1 == k) := by
  unfold moveToFront
  rw [found]
  exact congrArg ((k, v) :: ·) (filter_ne_eq_eraseP m k)

theorem moveToFront_of_find?_eq_none {m : InsertionMap κ τ} {k : κ} (absent : m.find? k = none) :
    m.moveToFront k = m := by
  unfold moveToFront
  rw [absent]

theorem entries_insertOrAssignFront_of_not_mem {m : InsertionMap κ τ} {k : κ}
    (absent : k ∉ m.keys) (v : τ) : (m.insertOrAssignFront k v).entries = (k, v) :: m.entries := by
  rw [insertOrAssignFront, dif_neg absent]
  rfl

/-- The entry of a found key, put in front of the others, is a reordering of the entries. -/
theorem perm_eraseP_of_find? {m : InsertionMap κ τ} {k : κ} {v : τ} (found : m.find? k = some v) :
    ((k, v) :: m.entries.eraseP (fun e => e.1 == k)).Perm m.entries := by
  have held := find?_eq_some_iff.1 found
  obtain ⟨e, before, after, -, here, split, erased⟩ :=
    List.exists_of_eraseP (p := fun e : κ × τ => e.1 == k) held (by simp)
  -- the first entry of `k` is the one found, as no key is there twice
  have same : e = (k, v) :=
    List.inj_on_of_nodup_map m.nodup (by rw [split]; simp) held (by simpa using here)
  rw [erased, split, ← same]
  exact List.perm_middle.symm

/-- A found key moved to the front and given a new value there. -/
theorem entries_modify_moveToFront {m : InsertionMap κ τ} {k : κ} {v : τ}
    (found : m.find? k = some v) (f : τ → τ) :
    ((m.moveToFront k).modify k f).entries = (k, f v) :: m.entries.eraseP (fun e => e.1 == k) := by
  have others : ∀ e ∈ m.entries.eraseP (fun e => e.1 == k), e.1 ≠ k := by
    intro e mem same
    have nodup := (m.moveToFront k).nodup
    rw [entries_moveToFront found, List.map_cons, List.nodup_cons] at nodup
    exact nodup.1 (List.mem_map.2 ⟨e, mem, same⟩)
  show ((m.moveToFront k).entries.map fun e => if e.1 = k then (e.1, f e.2) else e) = _
  rw [entries_moveToFront found, List.map_cons, if_pos rfl]
  congr 1
  exact (List.map_congr_left (g := id) fun e mem => if_neg (others e mem)).trans (List.map_id _)

end InsertionMap

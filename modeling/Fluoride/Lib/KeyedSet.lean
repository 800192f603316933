import Mathlib

/-!
# Sets ordered by a key

A `std::set` whose order compares one key of its elements holds at most one element per key and
iterates in increasing key order. `KeyedSet key` is that set as its iteration list, with the
strict order carried as a field. `insert` is `std::set::insert`: an element whose key is
already present is not inserted (`insert_of_mem_key`), and otherwise the list is a permutation
of the element consed onto the old one (`insert_perm`), so every sum over the set grows by the
element's term (`sum_insert`).

`find?` is `std::map::find` (or `std::find_if` by key): the element of a key. A set is
determined by what `find?` reports (`ext_find?`); after an insertion a key reports what it
reported before, or else the inserted element if it has that key (`find?_insert`), and after
a run of insertions it reports the first element of its key (`find?_foldl_insert`).
-/

variable {α κ : Type*} [LinearOrder κ]

/-- The elements of a set ordered by `key`, in iteration order. -/
structure KeyedSet (key : α → κ) where
  toList : List α
  sorted : toList.Pairwise (fun a b => key a < key b)

namespace KeyedSet

variable (key : α → κ)

/-- Insertion into a list increasing in `key`: before the first element of greater key, and
not at all when an element of the same key is met. -/
def insertUnique (x : α) : List α → List α
  | [] => [x]
  | y :: l =>
    if key x < key y then x :: y :: l
    else if key y < key x then y :: insertUnique x l
    else y :: l

variable {key}

theorem mem_insertUnique {x z : α} {l : List α} (h : z ∈ insertUnique key x l) :
    z = x ∨ z ∈ l := by
  induction l with
  | nil =>
    rw [insertUnique, List.mem_singleton] at h
    exact .inl h
  | cons y l ih =>
    unfold insertUnique at h
    split_ifs at h with lt gt
    · simpa using h
    · rcases List.mem_cons.1 h with rfl | rest
      · exact .inr List.mem_cons_self
      · exact (ih rest).imp_right (List.mem_cons_of_mem y)
    · exact .inr h

theorem sorted_insertUnique (x : α) {l : List α}
    (hl : l.Pairwise (fun a b => key a < key b)) :
    (insertUnique key x l).Pairwise (fun a b => key a < key b) := by
  induction l with
  | nil => exact List.pairwise_singleton _ x
  | cons y l ih =>
    obtain ⟨head, tail⟩ := List.pairwise_cons.1 hl
    unfold insertUnique
    split_ifs with lt gt
    · refine List.pairwise_cons.2 ⟨fun z hz => ?_, hl⟩
      rcases List.mem_cons.1 hz with rfl | rest
      · exact lt
      · exact lt_trans lt (head z rest)
    · refine List.pairwise_cons.2 ⟨fun z hz => ?_, ih tail⟩
      rcases mem_insertUnique hz with rfl | rest
      · exact gt
      · exact head z rest
    · exact hl

/-- An element whose key is already in the list leaves it unchanged. -/
theorem insertUnique_of_mem_key {x : α} {l : List α}
    (hl : l.Pairwise (fun a b => key a < key b)) (present : ∃ y ∈ l, key y = key x) :
    insertUnique key x l = l := by
  induction l with
  | nil =>
    obtain ⟨y, hy, -⟩ := present
    nomatch hy
  | cons y l ih =>
    obtain ⟨head, tail⟩ := List.pairwise_cons.1 hl
    obtain ⟨z, hz, same⟩ := present
    unfold insertUnique
    split_ifs with lt gt
    · -- the keys after `y` are greater than `key y`, so none is `key x`
      rcases List.mem_cons.1 hz with rfl | rest
      · exact absurd same (ne_of_gt lt)
      · exact absurd same (ne_of_gt (lt_trans lt (head z rest)))
    · rcases List.mem_cons.1 hz with rfl | rest
      · exact absurd same (ne_of_lt gt)
      · rw [ih tail ⟨z, rest, same⟩]
    · rfl

/-- An element of a new key is added. -/
theorem insertUnique_perm {x : α} {l : List α} (absent : ∀ y ∈ l, key y ≠ key x) :
    (insertUnique key x l).Perm (x :: l) := by
  induction l with
  | nil => exact List.Perm.refl _
  | cons y l ih =>
    unfold insertUnique
    split_ifs with lt gt
    · exact List.Perm.refl _
    · have rest : (insertUnique key x l).Perm (x :: l) :=
        ih fun z hz => absent z (List.mem_cons_of_mem y hz)
      exact (rest.cons y).trans (List.Perm.swap x y l)
    · exact absurd (le_antisymm (not_lt.1 lt) (not_lt.1 gt)) (absent y List.mem_cons_self)

/-- `std::set` default construction. -/
def empty : KeyedSet key := ⟨[], List.Pairwise.nil⟩

/-- `std::set::insert`. -/
def insert (s : KeyedSet key) (x : α) : KeyedSet key :=
  ⟨insertUnique key x s.toList, sorted_insertUnique x s.sorted⟩

/-- Some element of the set has key `k`. -/
def HasKey (s : KeyedSet key) (k : κ) : Prop := ∃ y ∈ s.toList, key y = k

instance (s : KeyedSet key) (k : κ) : Decidable (s.HasKey k) :=
  inferInstanceAs (Decidable (∃ y ∈ s.toList, key y = k))

theorem insert_of_mem_key {s : KeyedSet key} {x : α} (present : s.HasKey (key x)) :
    s.insert x = s := by
  show (⟨_, _⟩ : KeyedSet key) = s
  congr
  exact insertUnique_of_mem_key s.sorted present

theorem insert_perm {s : KeyedSet key} {x : α} (absent : ¬s.HasKey (key x)) :
    (s.insert x).toList.Perm (x :: s.toList) :=
  insertUnique_perm fun y hy same => absent ⟨y, hy, same⟩

theorem sum_insert (f : α → Nat) {s : KeyedSet key} {x : α} (absent : ¬s.HasKey (key x)) :
    ((s.insert x).toList.map f).sum = f x + (s.toList.map f).sum := by
  rw [((insert_perm absent).map f).sum_nat, List.map_cons, List.sum_cons]

/-! ## Lookup by key -/

/-- The element of key `k`, if there is one. -/
def find? (s : KeyedSet key) (k : κ) : Option α := s.toList.find? fun y => key y = k

/-- A list increasing in `key` holds at most one element per key. -/
theorem eq_of_key_eq {l : List α} (hl : l.Pairwise (fun a b => key a < key b)) {y z : α}
    (hy : y ∈ l) (hz : z ∈ l) (same : key y = key z) : y = z := by
  induction l with
  | nil => nomatch hy
  | cons w l ih =>
    obtain ⟨head, tail⟩ := List.pairwise_cons.1 hl
    rcases List.mem_cons.1 hy with rfl | hy' <;> rcases List.mem_cons.1 hz with rfl | hz'
    · rfl
    · exact absurd same (ne_of_lt (head z hz'))
    · exact absurd same (ne_of_gt (head y hy'))
    · exact ih tail hy' hz'

theorem find?_eq_some_iff {s : KeyedSet key} {k : κ} {y : α} :
    s.find? k = some y ↔ y ∈ s.toList ∧ key y = k := by
  constructor
  · intro found
    exact ⟨List.mem_of_find?_eq_some found, by simpa using List.find?_some found⟩
  · rintro ⟨mem, rfl⟩
    obtain ⟨z, found⟩ : ∃ z, s.find? (key y) = some z :=
      Option.isSome_iff_exists.mp (List.find?_isSome.mpr ⟨y, mem, by simp⟩)
    have zkey : key z = key y := by simpa using List.find?_some found
    rw [found, eq_of_key_eq s.sorted (List.mem_of_find?_eq_some found) mem zkey]

/-- Two sets that report the same element for every key are equal. -/
theorem ext_find? {s t : KeyedSet key} (h : ∀ k, s.find? k = t.find? k) : s = t := by
  have same : ∀ y, y ∈ s.toList ↔ y ∈ t.toList := fun y =>
    ⟨fun mem => (find?_eq_some_iff.mp ((h (key y)).symm.trans
        (find?_eq_some_iff.mpr ⟨mem, rfl⟩))).1,
      fun mem => (find?_eq_some_iff.mp ((h (key y)).trans
        (find?_eq_some_iff.mpr ⟨mem, rfl⟩))).1⟩
  have nodup : ∀ u : KeyedSet key, u.toList.Nodup := fun u =>
    u.sorted.imp fun lt => ne_of_apply_ne key (ne_of_lt lt)
  have perm := (List.perm_ext_iff_of_nodup (nodup s) (nodup t)).mpr same
  have lists := perm.eq_of_pairwise (fun a b _ _ ab ba => absurd (lt_trans ab ba) (lt_irrefl _))
    s.sorted t.sorted
  cases s
  cases t
  congr

/-- No element of a list whose keys are all above `k` has key `k`. -/
theorem find?_eq_none_of_lt {l : List α} {k : κ} (above : ∀ y ∈ l, k < key y) :
    l.find? (fun y => key y = k) = none := by
  rw [List.find?_eq_none]
  intro y mem
  simpa using ne_of_gt (above y mem)

theorem find?_insertUnique (x : α) {l : List α} (hl : l.Pairwise (fun a b => key a < key b))
    (k : κ) :
    (insertUnique key x l).find? (fun y => key y = k) =
      (l.find? fun y => key y = k).or (if key x = k then some x else none) := by
  induction l with
  | nil => by_cases same : key x = k <;> simp [insertUnique, same]
  | cons y l ih =>
    obtain ⟨head, tail⟩ := List.pairwise_cons.1 hl
    by_cases lt : key x < key y
    · -- `x` goes in front, and every key after it is greater
      rw [insertUnique, if_pos lt]
      by_cases same : key x = k
      · subst same
        have none : (y :: l).find? (fun z => key z = key x) = none :=
          find?_eq_none_of_lt fun z mem => by
            rcases List.mem_cons.1 mem with rfl | mem
            · exact lt
            · exact lt_trans lt (head z mem)
        rw [none, List.find?_cons_of_pos (by simp), if_pos rfl]
        rfl
      · rw [List.find?_cons_of_neg (by simpa using same), if_neg same, Option.or_none]
    by_cases gt : key y < key x
    · rw [insertUnique, if_neg lt, if_pos gt]
      by_cases here : key y = k
      · rw [List.find?_cons_of_pos (by simpa using here),
          List.find?_cons_of_pos (by simpa using here)]
        rfl
      · rw [List.find?_cons_of_neg (by simpa using here),
          List.find?_cons_of_neg (by simpa using here), ih tail]
    · -- the key of `x` is already there, so only `y :: l` answers
      rw [insertUnique, if_neg lt, if_neg gt]
      have equal : key y = key x := le_antisymm (not_lt.1 lt) (not_lt.1 gt)
      by_cases here : key x = k
      · rw [if_pos here, List.find?_cons_of_pos (by simpa [equal] using here)]
        rfl
      · rw [if_neg here, Option.or_none]

theorem find?_insert (s : KeyedSet key) (x : α) (k : κ) :
    (s.insert x).find? k = (s.find? k).or (if key x = k then some x else none) :=
  find?_insertUnique x s.sorted k

/-- After a run of insertions a key reports what it reported before, or else the first
inserted element of that key. -/
theorem find?_foldl_insert (es : List α) (s : KeyedSet key) (k : κ) :
    (es.foldl insert s).find? k = (s.find? k).or (es.find? fun y => key y = k) := by
  induction es generalizing s with
  | nil => simp
  | cons e es ih =>
    rw [List.foldl_cons, ih, find?_insert, Option.or_assoc]
    by_cases here : key e = k
    · rw [if_pos here, List.find?_cons_of_pos (by simpa using here)]
      rfl
    · rw [if_neg here, List.find?_cons_of_neg (by simpa using here)]
      rfl

theorem find?_empty (k : κ) : (empty : KeyedSet key).find? k = none := rfl

/-! ## Insertion that assigns -/

section

variable (key)

/-- Insertion into a list increasing in `key` that replaces the element of the same key. -/
def assignUnique (x : α) : List α → List α
  | [] => [x]
  | y :: l =>
    if key x < key y then x :: y :: l
    else if key y < key x then y :: assignUnique x l
    else x :: l

end

theorem mem_assignUnique {x z : α} {l : List α} (h : z ∈ assignUnique key x l) :
    z = x ∨ z ∈ l := by
  induction l with
  | nil =>
    rw [assignUnique, List.mem_singleton] at h
    exact .inl h
  | cons y l ih =>
    unfold assignUnique at h
    split_ifs at h with lt gt
    · simpa using h
    · rcases List.mem_cons.1 h with rfl | rest
      · exact .inr List.mem_cons_self
      · exact (ih rest).imp_right (List.mem_cons_of_mem y)
    · rcases List.mem_cons.1 h with rfl | rest
      · exact .inl rfl
      · exact .inr (List.mem_cons_of_mem y rest)

theorem sorted_assignUnique (x : α) {l : List α}
    (hl : l.Pairwise (fun a b => key a < key b)) :
    (assignUnique key x l).Pairwise (fun a b => key a < key b) := by
  induction l with
  | nil => exact List.pairwise_singleton _ x
  | cons y l ih =>
    obtain ⟨head, tail⟩ := List.pairwise_cons.1 hl
    unfold assignUnique
    split_ifs with lt gt
    · refine List.pairwise_cons.2 ⟨fun z hz => ?_, hl⟩
      rcases List.mem_cons.1 hz with rfl | rest
      · exact lt
      · exact lt_trans lt (head z rest)
    · refine List.pairwise_cons.2 ⟨fun z hz => ?_, ih tail⟩
      rcases mem_assignUnique hz with rfl | rest
      · exact gt
      · exact head z rest
    · -- `x` takes the place of `y`, whose key it has
      have equal : key y = key x := le_antisymm (not_lt.1 lt) (not_lt.1 gt)
      exact List.pairwise_cons.2 ⟨fun z hz => equal ▸ head z hz, tail⟩

/-- For a new key, assigning is inserting. -/
theorem assignUnique_of_absent {x : α} {l : List α} (absent : ∀ y ∈ l, key y ≠ key x) :
    assignUnique key x l = insertUnique key x l := by
  induction l with
  | nil => rfl
  | cons y l ih =>
    have rest : ∀ z ∈ l, key z ≠ key x := fun z hz => absent z (List.mem_cons_of_mem y hz)
    unfold assignUnique insertUnique
    split_ifs with lt gt
    · rfl
    · rw [ih rest]
    · exact absurd (le_antisymm (not_lt.1 lt) (not_lt.1 gt)) (absent y List.mem_cons_self)

/-- `std::map::insert_or_assign`. -/
def insertOrAssign (s : KeyedSet key) (x : α) : KeyedSet key :=
  ⟨assignUnique key x s.toList, sorted_assignUnique x s.sorted⟩

theorem insertOrAssign_of_absent {s : KeyedSet key} {x : α} (absent : ¬s.HasKey (key x)) :
    s.insertOrAssign x = s.insert x := by
  show (⟨_, _⟩ : KeyedSet key) = ⟨_, _⟩
  congr 1
  exact assignUnique_of_absent fun y hy same => absent ⟨y, hy, same⟩

end KeyedSet

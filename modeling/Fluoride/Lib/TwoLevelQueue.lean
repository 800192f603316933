import Mathlib

/-!
# A queue with two priority levels

One FIFO per level; the front is the oldest item of the higher level when it has one, and of
the lower level otherwise. `toList` is the order in which repeated `front?` and `pop` hand the
items out (`front?_eq_head?`, `toList_pop`). Pushing every item of a list at a level of its own
gives a permutation of that list (`toList_pushAll_perm`), and pushing into a queue whose items
all share the level pushed at is a plain FIFO append (`toList_push_of_forall`).
-/

/-- The two levels' FIFOs. -/
structure TwoLevelQueue (α : Type*) where
  low : List α
  high : List α

namespace TwoLevelQueue

variable {α : Type*} {q : TwoLevelQueue α}

/-- The two levels are `Fin 2`. -/
instance instNeZeroTwo : NeZero (2 : Nat) := ⟨by decide⟩

def empty : TwoLevelQueue α := ⟨[], []⟩

def push (q : TwoLevelQueue α) (t : α) (priority : Fin 2) : TwoLevelQueue α :=
  if priority = 1 then { q with high := q.high ++ [t] } else { q with low := q.low ++ [t] }

def front? (q : TwoLevelQueue α) : Option α := q.high.head? <|> q.low.head?

def pop (q : TwoLevelQueue α) : TwoLevelQueue α :=
  if q.high = [] then { q with low := q.low.tail } else { q with high := q.high.tail }

/-- The items in the order they leave. -/
def toList (q : TwoLevelQueue α) : List α := q.high ++ q.low

def size (q : TwoLevelQueue α) : Nat := q.high.length + q.low.length

@[simp] theorem toList_empty : (empty : TwoLevelQueue α).toList = [] := rfl

theorem size_eq_length (q : TwoLevelQueue α) : q.size = q.toList.length := by
  simp [size, toList]

theorem front?_eq_head? (q : TwoLevelQueue α) : q.front? = q.toList.head? := by
  unfold front? toList
  cases q.high <;> rfl

theorem mem_toList_of_front? {q : TwoLevelQueue α} {t : α} (h : q.front? = some t) :
    t ∈ q.toList := by
  rw [front?_eq_head?] at h
  exact List.mem_of_head? h

theorem toList_pop (q : TwoLevelQueue α) : q.pop.toList = q.toList.tail := by
  obtain ⟨low, high⟩ := q
  cases high with
  | nil => rfl
  | cons t rest => rfl

/-- Pushed items all leave, at a place that depends on their level. -/
theorem toList_push_perm (q : TwoLevelQueue α) (t : α) (priority : Fin 2) :
    (q.push t priority).toList.Perm (q.toList ++ [t]) := by
  unfold push toList
  split
  · simp only [List.append_assoc]
    exact List.perm_append_comm.append_left q.high
  · simp only [List.append_assoc, List.Perm.refl]

/-- Into a queue whose items all sit at the level pushed at, a push is a FIFO append. -/
theorem toList_push_of_forall {level : α → Fin 2} (t : α)
    (same : ∀ u ∈ q.toList, level u = level t)
    (leveled : (∀ u ∈ q.high, level u = 1) ∧ ∀ u ∈ q.low, level u = 0) :
    (q.push t (level t)).toList = q.toList ++ [t] := by
  unfold push toList at *
  split
  · next high =>
    -- every item is high, so the low FIFO is empty
    have low : q.low = [] := List.eq_nil_iff_forall_not_mem.2 fun u hu => by
      have := same u (List.mem_append_right _ hu)
      rw [leveled.2 u hu, high] at this
      exact absurd this (by decide)
    simp [low]
  · next low =>
    have high : q.high = [] := List.eq_nil_iff_forall_not_mem.2 fun u hu => by
      have := same u (List.mem_append_left _ hu)
      rw [leveled.1 u hu] at this
      exact low this.symm
    simp [high]

/-- Pushing the items of a list one by one, each at a level of its own. -/
def pushAll (level : α → Fin 2) (q : TwoLevelQueue α) (l : List α) : TwoLevelQueue α :=
  l.foldl (fun acc t => acc.push t (level t)) q

theorem toList_pushAll_perm (level : α → Fin 2) (q : TwoLevelQueue α) (l : List α) :
    (pushAll level q l).toList.Perm (q.toList ++ l) := by
  induction l generalizing q with
  | nil => simp [pushAll]
  | cons t l ih =>
    have step := ih (q.push t (level t))
    unfold pushAll at step ⊢
    rw [List.foldl_cons]
    refine step.trans ?_
    have pushed := (toList_push_perm q t (level t)).append_right l
    simpa only [List.append_assoc, List.singleton_append] using pushed

end TwoLevelQueue

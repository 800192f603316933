import Mathlib.Data.List.Sort

/-!
# Timer lists

A list of timers kept in order of deadline takes a new timer after every timer whose deadline is
at most its own: `List.orderedInsert` with the strict order of keys. Timers of equal deadline
then stand in the order they came in. To say so, each element carries a stamp, larger for later
arrivals, and the list is sorted by key and then by stamp (`KeyStampLt`). Inserting an element
whose stamp is larger than every stamp of the list keeps that order (`pairwise_orderedInsert`),
and so does taking an element out and putting it back with a new key (`pairwise_reinsert`).

A periodic timer created at `c` with period `p` fires on the grid `c, c + p, c + 2 * p, …`. Its
next deadline after `n` is `n` plus what is left of the period `n` is in
(`firstOnGridAfter_next`).
-/

namespace TimerList

variable {α β : Type} [LinearOrder β] (key : α → β) (stamp : α → ℕ)

/-- `x` comes before `y`: a smaller key, or the same key and an earlier stamp. -/
def KeyStampLt (x y : α) : Prop := key x < key y ∨ (key x = key y ∧ stamp x < stamp y)

variable {key stamp}

theorem KeyStampLt.key_le {x y : α} (lt : KeyStampLt key stamp x y) : key x ≤ key y := by
  rcases lt with lt | ⟨same, -⟩
  · exact le_of_lt lt
  · exact le_of_eq same

/-- The order of a list carries over to keys and stamps that agree on its elements. -/
theorem pairwise_of_agree {key' : α → β} {stamp' : α → ℕ} {l : List α}
    (agree : ∀ x ∈ l, key' x = key x ∧ stamp' x = stamp x)
    (sorted : l.Pairwise (KeyStampLt key stamp)) : l.Pairwise (KeyStampLt key' stamp') :=
  sorted.imp_of_mem fun {x y} memX memY lt => by
    rwa [KeyStampLt, (agree x memX).1, (agree x memX).2, (agree y memY).1, (agree y memY).2]

/-- Inserting the latest element after every element of key at most its own keeps a list in
order of key and then stamp. -/
theorem pairwise_orderedInsert (a : α) :
    ∀ {l : List α}, l.Pairwise (KeyStampLt key stamp) → (∀ x ∈ l, stamp x < stamp a) →
      (l.orderedInsert (fun x y => key x < key y) a).Pairwise (KeyStampLt key stamp)
  | [], _, _ => List.pairwise_singleton _ a
  | x :: xs, sorted, latest => by
    rw [List.pairwise_cons] at sorted
    rw [List.orderedInsert_cons]
    split
    case isTrue before =>
      -- `a` goes first: every key of the list is at least `key x`
      refine List.Pairwise.cons (fun y mem => ?_) (List.Pairwise.cons sorted.1 sorted.2)
      rcases List.mem_cons.1 mem with rfl | later
      · exact .inl before
      · exact .inl (lt_of_lt_of_le before (sorted.1 y later).key_le)
    case isFalse after =>
      have rest :=
        pairwise_orderedInsert a sorted.2 fun y mem => latest y (List.mem_cons_of_mem x mem)
      refine List.Pairwise.cons (fun y mem => ?_) rest
      rcases List.mem_cons.1 ((List.perm_orderedInsert _ a xs).mem_iff.1 mem) with rfl | later
      · -- `x` has a key at most `a`'s, and an earlier stamp
        rcases (not_lt.1 after).lt_or_eq with lt | same
        · exact .inl lt
        · exact .inr ⟨same, latest x List.mem_cons_self⟩
      · exact sorted.1 y later

section Reinsert

variable [DecidableEq α] {key' : α → β} {l : List α} (a : α)

theorem nodup_reinsert (r : α → α → Prop) [DecidableRel r] (nodup : l.Nodup) :
    ((l.erase a).orderedInsert r a).Nodup :=
  (List.perm_orderedInsert r a _).nodup_iff.2
    (List.nodup_cons.2 ⟨nodup.not_mem_erase, nodup.erase a⟩)

theorem mem_reinsert_of_ne (r : α → α → Prop) [DecidableRel r] {x : α} (ne : x ≠ a) :
    x ∈ (l.erase a).orderedInsert r a ↔ x ∈ l := by
  rw [List.mem_orderedInsert, List.mem_erase_of_ne ne, or_iff_right ne]

/-- Taking an element out keeps the order, under a key that changed at most for it. -/
theorem pairwise_erase (nodup : l.Nodup) (agree : ∀ x, x ≠ a → key' x = key x)
    (sorted : l.Pairwise (KeyStampLt key stamp)) : (l.erase a).Pairwise (KeyStampLt key' stamp) :=
  pairwise_of_agree (fun x mem => ⟨agree x ((nodup.mem_erase_iff.1 mem).1), rfl⟩)
    (sorted.erase a)

/-- Taking an element out and putting it back, with the latest stamp and under a key that changed
at most for it, keeps the order. -/
theorem pairwise_reinsert (c : ℕ) (nodup : l.Nodup) (agree : ∀ x, x ≠ a → key' x = key x)
    (sorted : l.Pairwise (KeyStampLt key stamp)) (stamped : ∀ x ∈ l, stamp x < c) :
    ((l.erase a).orderedInsert (fun x y => key' x < key' y) a).Pairwise
      (KeyStampLt key' (Function.update stamp a c)) := by
  have others : ∀ x ∈ l.erase a, x ≠ a := fun x mem => (nodup.mem_erase_iff.1 mem).1
  refine pairwise_orderedInsert a ?_ fun x mem => ?_
  · refine pairwise_of_agree (fun x mem => ⟨agree x (others x mem), ?_⟩) (sorted.erase a)
    exact Function.update_of_ne (others x mem) c stamp
  · rw [Function.update_of_ne (others x mem), Function.update_self]
    exact stamped x (List.mem_of_mem_erase mem)

end Reinsert

/-! ## Deadlines on a period's grid -/

/-- `d` is the first point of the grid `c, c + p, c + 2 * p, …` strictly after `n`. -/
def FirstOnGridAfter (c p n d : ℕ) : Prop :=
  (∃ k, d = c + k * p) ∧ n < d ∧ ∀ k, n < c + k * p → d ≤ c + k * p

/-- From a point `n` of the grid's span, the next grid point is what is left of `n`'s period
away. -/
theorem firstOnGridAfter_next {c p n : ℕ} (created : c ≤ n) (pos : 0 < p) :
    FirstOnGridAfter c p n (n + (p - (n - c) % p)) := by
  -- `n - c` is `q` whole periods and `r` more
  have split := Nat.div_add_mod (n - c) p
  have short := Nat.mod_lt (n - c) pos
  have onGrid : n + (p - (n - c) % p) = c + ((n - c) / p + 1) * p := by
    rw [Nat.add_mul, Nat.one_mul, Nat.mul_comm]
    omega
  refine ⟨⟨(n - c) / p + 1, onGrid⟩, by omega, fun k after => ?_⟩
  have later : (n - c) / p < k := (Nat.div_lt_iff_lt_mul pos).2 (by omega)
  rw [onGrid]
  exact Nat.add_le_add_left (Nat.mul_le_mul_right p later) c

end TimerList

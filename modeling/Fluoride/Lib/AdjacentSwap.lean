import Mathlib.Data.List.Chain

/-!
# Swapping neighbours, and inversions

Swapping the entries at `i` and `i + 1` of an array through a temporary is `swapNext`. On a
list split around the two entries it exchanges them (`swapNext_eq`), so it permutes the list
and keeps its length; inside a prefix it permutes the prefix and keeps what follows.

`inversions l` counts the pairs of entries out of order. Swapping an out-of-order pair of
neighbours removes exactly one (`inversions_swapNext`), which makes the count the variant of a
sort by such swaps. A list whose neighbours are all in order is sorted
(`pairwise_le_of_getD_le_succ`).
-/

namespace AdjacentSwap

variable {α : Type*}

/-- `x = a[i]; a[i] = a[i + 1]; a[i + 1] = x;`, reading past the end as `d`. -/
def swapNext (l : List α) (i : Nat) (d : α) : List α :=
  (l.set i (l.getD (i + 1) d)).set (i + 1) (l.getD i d)

/-- The list around the entries at `i` and `i + 1`. -/
theorem exists_split {l : List α} {i : Nat} (h : i + 1 < l.length) (d : α) :
    ∃ pre post, pre.length = i ∧ l = pre ++ l.getD i d :: l.getD (i + 1) d :: post := by
  refine ⟨l.take i, l.drop (i + 2), by simp; omega, ?_⟩
  conv_lhs => rw [← List.take_append_drop i l]
  congr 1
  rw [List.drop_eq_getElem_cons (by omega), List.drop_eq_getElem_cons (by omega)]
  simp [List.getD_eq_getElem?_getD, List.getElem?_eq_getElem (show i < l.length by omega),
    List.getElem?_eq_getElem h]

theorem swapNext_eq {pre post : List α} {a b : α} {i : Nat} (h : pre.length = i) (d : α) :
    swapNext (pre ++ a :: b :: post) i d = pre ++ b :: a :: post := by
  subst h
  simp [swapNext, List.getD_eq_getElem?_getD]

@[simp] theorem length_swapNext (l : List α) (i : Nat) (d : α) :
    (swapNext l i d).length = l.length := by
  simp [swapNext]

theorem swapNext_perm {l : List α} {i : Nat} (h : i + 1 < l.length) (d : α) :
    (swapNext l i d).Perm l := by
  obtain ⟨pre, post, len, split⟩ := exists_split h d
  rw [split, swapNext_eq len]
  exact (List.Perm.swap _ _ _).append_left pre

theorem getD_take {l : List α} {j m : Nat} (h : j < m) (d : α) : (l.take m).getD j d = l.getD j d := by
  simp [List.getD_eq_getElem?_getD, h]

theorem take_append_cons_cons (pre post : List α) (a b : α) (k : Nat) :
    (pre ++ a :: b :: post).take (pre.length + 2 + k) = pre ++ a :: b :: post.take k := by
  have short : pre.length ≤ pre.length + 2 + k := by omega
  simp [List.take_append, List.take_of_length_le short,
    show pre.length + 2 + k - pre.length = k + 1 + 1 by omega]

theorem drop_append_cons_cons (pre post : List α) (a b : α) (k : Nat) :
    (pre ++ a :: b :: post).drop (pre.length + 2 + k) = post.drop k := by
  have short : pre.length ≤ pre.length + 2 + k := by omega
  simp [List.drop_append, List.drop_of_length_le short,
    show pre.length + 2 + k - pre.length = k + 1 + 1 by omega]

section Prefix

variable {l : List α} {i m : Nat} (h : i + 1 < m) (hm : m ≤ l.length) (d : α)
include h hm

/-- A swap inside the first `m` entries is a swap of them. -/
theorem take_swapNext : (swapNext l i d).take m = swapNext (l.take m) i d := by
  obtain ⟨pre, post, len, split⟩ := exists_split (show i + 1 < l.length by omega) d
  obtain ⟨k, rfl⟩ : ∃ k, m = pre.length + 2 + k := ⟨m - pre.length - 2, by omega⟩
  rw [split, swapNext_eq len, take_append_cons_cons, take_append_cons_cons, swapNext_eq len]

/-- A swap inside the first `m` entries keeps the rest. -/
theorem drop_swapNext : (swapNext l i d).drop m = l.drop m := by
  obtain ⟨pre, post, len, split⟩ := exists_split (show i + 1 < l.length by omega) d
  obtain ⟨k, rfl⟩ : ∃ k, m = pre.length + 2 + k := ⟨m - pre.length - 2, by omega⟩
  rw [split, swapNext_eq len, drop_append_cons_cons, drop_append_cons_cons]

/-- A swap inside the first `m` entries permutes them. -/
theorem take_swapNext_perm : ((swapNext l i d).take m).Perm (l.take m) := by
  rw [take_swapNext h hm]
  exact swapNext_perm (by simp; omega) d

end Prefix

/-! ## Inversions -/

section Inversions

variable [LT α] [DecidableLT α]

/-- The pairs of entries out of order: for each entry, the later entries below it. -/
def inversions : List α → Nat
  | [] => 0
  | a :: l => l.countP (fun b => b < a) + inversions l

@[simp] theorem inversions_nil : inversions ([] : List α) = 0 := rfl

@[simp] theorem inversions_cons (a : α) (l : List α) :
    inversions (a :: l) = l.countP (fun b => b < a) + inversions l := rfl

theorem inversions_le_sq (l : List α) : inversions l ≤ l.length * l.length := by
  induction l with
  | nil => simp
  | cons a l ih =>
    have count : l.countP (fun b => b < a) ≤ l.length := List.countP_le_length
    calc inversions (a :: l) ≤ l.length + l.length * l.length := Nat.add_le_add count ih
      _ ≤ (a :: l).length * (a :: l).length := by
        rw [List.length_cons, Nat.succ_mul, Nat.mul_succ]
        omega

variable [LE α] [Std.IsLinearOrder α] [Std.LawfulOrderLT α]

/-- Swapping an out-of-order pair of neighbours removes exactly one inversion. The induction is
on the entries before the pair, each of which sees the same entries after it. -/
theorem inversions_swap {pre post : List α} {a b : α} (lt : b < a) :
    inversions (pre ++ a :: b :: post) = inversions (pre ++ b :: a :: post) + 1 := by
  induction pre with
  | nil =>
    simp [lt, Std.not_lt.2 (Std.le_of_lt lt)]
    omega
  | cons c pre ih =>
    have same : (pre ++ a :: b :: post).countP (fun x => x < c) =
        (pre ++ b :: a :: post).countP (fun x => x < c) :=
      ((List.Perm.swap _ _ _).append_left pre).countP_eq _ |>.symm
    simp only [List.cons_append, inversions_cons, same, ih]
    omega

theorem inversions_swapNext {l : List α} {i : Nat} (h : i + 1 < l.length) (d : α)
    (lt : l.getD (i + 1) d < l.getD i d) :
    inversions (swapNext l i d) + 1 = inversions l := by
  obtain ⟨pre, post, len, split⟩ := exists_split h d
  rw [split, swapNext_eq len, inversions_swap lt]

end Inversions

/-- A list whose neighbours are in order is sorted. -/
theorem pairwise_le_of_getD_le_succ [LE α] [Std.IsLinearOrder α] {l : List α} (d : α)
    (adj : ∀ j, j + 1 < l.length → l.getD j d ≤ l.getD (j + 1) d) : l.Pairwise (· ≤ ·) := by
  rw [← List.isChain_iff_pairwise, List.isChain_iff_getElem]
  intro j hj
  have := adj j hj
  rwa [List.getD_eq_getElem?_getD, List.getD_eq_getElem?_getD,
    List.getElem?_eq_getElem (show j < l.length by omega), List.getElem?_eq_getElem hj] at this

end AdjacentSwap

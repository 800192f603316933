import Mathlib

/-!
# Taking items under a budget

`takeWithin size lim l` keeps the items of `l` in order while their sizes still fit in `lim`;
the first item that does not fit ends it. It is the loop of an accumulator with a capacity that
refuses an item past it, run by a caller that stops at the first refusal.

What it keeps is a prefix of the list (`takeWithin_prefix`) within the budget
(`sum_takeWithin_le`), and it is empty only when the list is or its first item alone is tooBig
the budget (`takeWithin_eq_nil_iff`).
-/

namespace List

variable {α : Type*} (size : α → Nat)

/-- The longest prefix whose sizes add up to at most the budget. -/
def takeWithin : Nat → List α → List α
  | _, [] => []
  | lim, a :: l => if size a ≤ lim then a :: takeWithin (lim - size a) l else []

variable {size}

@[simp] theorem takeWithin_nil (lim : Nat) : takeWithin size lim [] = [] := rfl

theorem takeWithin_cons_of_le {lim : Nat} {a : α} (l : List α) (fits : size a ≤ lim) :
    takeWithin size lim (a :: l) = a :: takeWithin size (lim - size a) l :=
  if_pos fits

theorem takeWithin_cons_of_lt {lim : Nat} {a : α} (l : List α) (tooBig : lim < size a) :
    takeWithin size lim (a :: l) = [] :=
  if_neg (Nat.not_le.2 tooBig)

theorem takeWithin_prefix (lim : Nat) (l : List α) : takeWithin size lim l <+: l := by
  induction l generalizing lim with
  | nil => exact List.nil_prefix
  | cons a l ih =>
    by_cases fits : size a ≤ lim
    · rw [takeWithin_cons_of_le l fits]
      exact List.cons_prefix_cons.2 ⟨rfl, ih _⟩
    · rw [takeWithin_cons_of_lt l (Nat.lt_of_not_le fits)]
      exact List.nil_prefix

theorem sum_takeWithin_le (lim : Nat) (l : List α) :
    ((takeWithin size lim l).map size).sum ≤ lim := by
  induction l generalizing lim with
  | nil => exact Nat.zero_le _
  | cons a l ih =>
    by_cases fits : size a ≤ lim
    · rw [takeWithin_cons_of_le l fits, List.map_cons, List.sum_cons]
      have rest := ih (lim - size a)
      omega
    · rw [takeWithin_cons_of_lt l (Nat.lt_of_not_le fits)]
      exact Nat.zero_le _

theorem takeWithin_eq_nil_iff {lim : Nat} {l : List α} :
    takeWithin size lim l = [] ↔ ∀ a ∈ l.head?, lim < size a := by
  cases l with
  | nil => simp
  | cons a l =>
    by_cases fits : size a ≤ lim
    · rw [takeWithin_cons_of_le l fits]
      simp only [List.head?_cons, Option.mem_def, Option.some.injEq, forall_eq', reduceCtorEq,
        false_iff, Nat.not_lt]
      exact fits
    · rw [takeWithin_cons_of_lt l (Nat.lt_of_not_le fits)]
      simp only [List.head?_cons, Option.mem_def, Option.some.injEq, forall_eq', true_iff]
      exact Nat.lt_of_not_le fits

end List

import Mathlib.Data.List.Basic

/-!
# A buffer read from an offset

A parser that walks a buffer by offset knows what lies from an offset on as a fact
`l.drop p = ...`. These rules read the element at the offset, move the offset past a known
prefix, and bound the offset by the buffer's length from such a fact.
-/

namespace Suffix

variable {α : Type*} {l : List α} {p : Nat}

theorem getD_of_drop_eq_cons {a d : α} {r : List α} (h : l.drop p = a :: r) :
    l.getD p d = a := by
  have := congrArg (·[0]?) h
  simp only [List.getElem?_drop, Nat.add_zero, List.getElem?_cons_zero] at this
  simp [List.getD_eq_getElem?_getD, this]

theorem drop_succ_of_drop_eq_cons {a : α} {r : List α} (h : l.drop p = a :: r) :
    l.drop (p + 1) = r := by
  rw [← List.drop_drop, h, List.drop_one, List.tail_cons]

theorem drop_add_of_drop_eq {S R : List α} (h : l.drop p = S ++ R) :
    l.drop (p + S.length) = R := by
  rw [← List.drop_drop, h, List.drop_left]

theorem le_length_of_drop_eq {S R : List α} (h : l.drop p = S ++ R) (hS : S ≠ []) :
    p + S.length ≤ l.length := by
  have hlen := congrArg List.length h
  have hpos : 0 < S.length := List.length_pos_of_ne_nil hS
  simp only [List.length_drop, List.length_append] at hlen
  omega

theorem add_two_le_of_drop_eq_cons {R : List α} {a b : α} (h : l.drop p = a :: b :: R) :
    p + 2 ≤ l.length :=
  le_length_of_drop_eq (S := [a, b]) h (List.cons_ne_nil _ _)

end Suffix

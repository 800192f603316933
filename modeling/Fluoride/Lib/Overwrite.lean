import Mathlib.Data.List.Basic

/-!
# A buffer overwritten at an offset

`memcpy(buf + p, src, n)` with the `n` bytes of `src` leaves `l.take p ++ src ++ l.drop (p + n)`.
When the bytes fit in the buffer it keeps its length (`length_eq`), and a copy to where the
previous one ended makes one copy of both (`overwrite_append`): a buffer filled by successive
copies holds their concatenation. The source read in pieces, one after the other, is read in
one (`take_drop_append`).
-/

namespace Overwrite

variable {α : Type*} {l src : List α} {p n : Nat}

/-- `memcpy(l + p, src, src.length)`. -/
def write (l : List α) (p : Nat) (src : List α) : List α := l.take p ++ src ++ l.drop (p + src.length)

theorem length_eq (fits : p + n ≤ l.length) (hn : src.length = n) :
    (l.take p ++ src ++ l.drop (p + n)).length = l.length := by
  simp only [List.length_append, List.length_take, List.length_drop, hn]
  omega

theorem take_eq (hp : p ≤ l.length) (hn : src.length = n) :
    (l.take p ++ src ++ l.drop (p + n)).take (p + n) = l.take p ++ src := by
  have prefix_len : (l.take p ++ src).length = p + n := by
    simp only [List.length_append, List.length_take, hn]
    omega
  rw [← prefix_len, List.take_left]

theorem drop_eq (hp : p ≤ l.length) (hn : src.length = n) (k : Nat) :
    (l.take p ++ src ++ l.drop (p + n)).drop (p + n + k) = l.drop (p + n + k) := by
  have prefix_len : (l.take p ++ src).length = p + n := by
    simp only [List.length_append, List.length_take, hn]
    omega
  rw [← List.drop_drop, ← prefix_len, List.drop_left, List.drop_drop, prefix_len]

/-- **Two copies, the second where the first ends**, are one copy of both. -/
theorem overwrite_append (hp : p ≤ l.length) (hn : src.length = n) (src' : List α) (n' : Nat) :
    (l.take p ++ src ++ l.drop (p + n)).take (p + n) ++ src' ++
        (l.take p ++ src ++ l.drop (p + n)).drop (p + n + n') =
      l.take p ++ (src ++ src') ++ l.drop (p + (n + n')) := by
  rw [take_eq hp hn, drop_eq hp hn, Nat.add_assoc]
  simp only [List.append_assoc]

/-- The `n` elements from `q` and the next `R - n` are the `R` elements from `q`. -/
theorem take_drop_append (l : List α) (q : Nat) {R : Nat} (le : n ≤ R) :
    (l.drop q).take n ++ (l.drop (q + n)).take (R - n) = (l.drop q).take R := by
  rw [← List.drop_drop, ← List.take_add, Nat.add_sub_cancel' le]

end Overwrite

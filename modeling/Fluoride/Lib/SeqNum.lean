import Mathlib

/-!
# Wrapping sequence numbers

Sliding-window protocols number their frames modulo a fixed `n + 1` and reason about
"the `k` frames starting at `a`". `seqRun a k` is that list, `a, a + 1, …, a + (k - 1)`,
wrapping around. The lemmas below are the ones a window invariant needs: the run grows
at its end by the number `k` steps ahead of its start, it shrinks at its front by
moving the start forward, and (for `k ≤ n + 1`) it holds exactly the numbers fewer
than `k` steps ahead of its start.
-/

namespace SeqNum

variable {n : Nat}

/-- The `k` consecutive sequence numbers starting at `a`. -/
def seqRun (a : Fin (n + 1)) : Nat → List (Fin (n + 1))
  | 0 => []
  | k + 1 => a :: seqRun (a + 1) k

@[simp] theorem seqRun_zero (a : Fin (n + 1)) : seqRun a 0 = [] := rfl

@[simp] theorem seqRun_succ (a : Fin (n + 1)) (k : Nat) :
    seqRun a (k + 1) = a :: seqRun (a + 1) k := rfl

@[simp] theorem length_seqRun (a : Fin (n + 1)) (k : Nat) : (seqRun a k).length = k := by
  induction k generalizing a with
  | zero => rfl
  | succ k ih => simp [ih]

/-- Moving one step back from a number that is `k + 1` steps ahead of `a + 1`'s
predecessor: the distance from `a + 1` is one less than the distance from `a`. -/
theorem val_sub_succ {a b : Fin (n + 1)} {k : Nat} (h : (b - a).val = k + 1) :
    (b - (a + 1)).val = k := by
  have hne : b - a ≠ 0 := by
    intro h0
    rw [h0, Fin.val_zero] at h
    omega
  have heq : b - (a + 1) = (b - a) - 1 := by abel
  rw [heq, Fin.coe_sub_one, if_neg hne, h]
  rfl

/-- The number one step past `b`, when `b` is `k < n` steps ahead of `a`, is `k + 1` steps
ahead of `a` (no wrap past `a`). -/
theorem val_add_one_sub {a b : Fin (n + 1)} {k : Nat} (h : (b - a).val = k) (hk : k < n) :
    (b + 1 - a).val = k + 1 := by
  have heq : b + 1 - a = (b - a) + 1 := by abel
  have hlt : b - a < Fin.last n := by
    rw [Fin.lt_def, Fin.val_last, h]
    exact hk
  rw [heq, Fin.val_add_one_of_lt hlt, h]

/-- A number fewer than `n` steps ahead of `a + 1` is one step further ahead of `a`. -/
theorem val_sub_eq_succ {a x : Fin (n + 1)} (h : (x - (a + 1)).val < n) :
    (x - a).val = (x - (a + 1)).val + 1 := by
  have heq : x - a = (x - (a + 1)) + 1 := by abel
  have hlt : x - (a + 1) < Fin.last n := by
    rw [Fin.lt_def, Fin.val_last]
    exact h
  rw [heq, Fin.val_add_one_of_lt hlt]

/-- Distances from a common start subtract, when the first is not past the second. -/
theorem val_sub_sub_of_le {a b c : Fin (n + 1)} (h : (b - a).val ≤ (c - a).val) :
    (c - b).val = (c - a).val - (b - a).val := by
  have heq : c - b = (c - a) - (b - a) := by abel
  rw [heq, Fin.coe_sub_iff_le.mpr (Fin.le_def.mpr h)]

/-- The run grows at its end by the number `k` steps ahead of its start. -/
theorem seqRun_append_single {a b : Fin (n + 1)} {k : Nat} (h : (b - a).val = k) :
    seqRun a k ++ [b] = seqRun a (k + 1) := by
  induction k generalizing a with
  | zero =>
    have hb : b = a := by
      have : b - a = 0 := Fin.ext h
      exact sub_eq_zero.mp this
    simp [hb]
  | succ k ih =>
    rw [seqRun_succ, List.cons_append, ih (val_sub_succ h), seqRun_succ (k := k + 1)]

/-- Dropping the first `j` numbers of a run starts it `j` steps later. -/
theorem drop_seqRun {a b : Fin (n + 1)} {j k : Nat} (h : (b - a).val = j) (hjk : j ≤ k) :
    (seqRun a k).drop j = seqRun b (k - j) := by
  induction j generalizing a k with
  | zero =>
    have hb : b = a := sub_eq_zero.mp (Fin.ext h)
    simp [hb]
  | succ j ih =>
    obtain ⟨k, rfl⟩ : ∃ k', k = k' + 1 := ⟨k - 1, by omega⟩
    rw [seqRun_succ, List.drop_succ_cons, ih (val_sub_succ h) (by omega)]
    congr 1
    omega

/-- Taking the first `j` numbers of a run is the shorter run. -/
theorem take_seqRun (a : Fin (n + 1)) {j k : Nat} (hjk : j ≤ k) :
    (seqRun a k).take j = seqRun a j := by
  induction j generalizing a k with
  | zero => simp
  | succ j ih =>
    obtain ⟨k, rfl⟩ : ∃ k', k = k' + 1 := ⟨k - 1, by omega⟩
    rw [seqRun_succ, List.take_succ_cons, ih (a + 1) (by omega), seqRun_succ]

/-- A run no longer than the modulus holds exactly the numbers fewer than `k` steps
ahead of its start. -/
theorem mem_seqRun_iff {a x : Fin (n + 1)} {k : Nat} (hk : k ≤ n + 1) :
    x ∈ seqRun a k ↔ (x - a).val < k := by
  induction k generalizing a with
  | zero => simp
  | succ k ih =>
    rw [seqRun_succ, List.mem_cons, ih (by omega)]
    by_cases hx : x = a
    · subst hx
      simp
    · have hne : x - a ≠ 0 := fun h0 => hx (sub_eq_zero.mp h0)
      have hpos : 0 < (x - a).val := by
        rcases Nat.eq_zero_or_pos (x - a).val with h0 | h0
        · exact absurd (Fin.ext h0) hne
        · exact h0
      have heq : x - (a + 1) = (x - a) - 1 := by abel
      rw [heq, Fin.coe_sub_one, if_neg hne]
      simp only [hx, false_or]
      omega

/-! ## Windows -/

/-- `x` lies in the window `[a, b)` of the circular sequence space: it is fewer steps
ahead of `a` than `b` is. -/
def InWindow (a b x : Fin (n + 1)) : Prop := (x - a).val < (b - a).val

instance (a b x : Fin (n + 1)) : Decidable (InWindow a b x) :=
  inferInstanceAs (Decidable (_ < _))

/-- In a list whose numbers form a run from `a`, dropping the first `j` elements removes
exactly the elements fewer than `j` steps ahead of `a`. -/
theorem drop_eq_filter_of_map_eq_seqRun {α : Type*} {g : α → Fin (n + 1)} {xs : List α}
    {a : Fin (n + 1)} {k : Nat} (hxs : xs.map g = seqRun a k) (hk : k ≤ n + 1) (j : Nat) :
    xs.drop j = xs.filter (fun x => j ≤ (g x - a).val) := by
  induction xs generalizing a k j with
  | nil => simp
  | cons x xs ih =>
    -- the head carries `a`, the tail a run from `a + 1`
    obtain ⟨k, rfl⟩ : ∃ k', k = k' + 1 := by
      cases k with
      | zero => simp at hxs
      | succ k => exact ⟨k, rfl⟩
    simp only [List.map_cons, seqRun_succ, List.cons.injEq] at hxs
    obtain ⟨hx, hrest⟩ := hxs
    cases j with
    | zero => simp
    | succ j =>
      have hhead : ¬ (j + 1 ≤ (g x - a).val) := by simp [hx]
      rw [List.drop_succ_cons, List.filter_cons_of_neg (by simpa using hhead),
        ih hrest (by omega) j]
      -- every later number is one step further from `a` than from `a + 1`
      apply List.filter_congr
      intro y hy
      have hmem : g y ∈ seqRun (a + 1) k := hrest ▸ List.mem_map_of_mem hy
      have hlt := (mem_seqRun_iff (by omega)).mp hmem
      have hstep : (g y - a).val = (g y - (a + 1)).val + 1 := val_sub_eq_succ (by omega)
      rw [hstep]
      simp

/-- The same for a window: dropping the frames up to `b` removes exactly those in
`[a, b)`. -/
theorem drop_eq_filter_not_inWindow {α : Type*} {g : α → Fin (n + 1)} {xs : List α}
    {a : Fin (n + 1)} {k : Nat} (hxs : xs.map g = seqRun a k) (hk : k ≤ n + 1)
    (b : Fin (n + 1)) :
    xs.drop (b - a).val = xs.filter (fun x => ¬ InWindow a b (g x)) := by
  rw [drop_eq_filter_of_map_eq_seqRun hxs hk]
  apply List.filter_congr
  intro x _
  simp [InWindow]

end SeqNum

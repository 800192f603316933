import Mathlib.Order.Basic

/-!
# Loops over a cursor that only moves forward

`while (p < p_end) { p = step(p); if (!p) return NULL; }`, where each step reads from
position `p` on and returns a position past it, or fails, with a state threaded through. A
step's result carries its progress in its type (`Advance`), so the loop terminates by
construction, measured by `pEnd - p`, and needs no fuel.

The rules: one equation per way an iteration can go (`cursorLoop_of_le`,
`cursorLoop_of_fail`, `cursorLoop_of_next`), the invariant rule for the states the loop
goes through (`cursorLoop_invariant`), and congruence: loops whose steps agree before the end
run alike (`cursorLoop_congr`), which is how a loop is shown to read nothing past the end.
-/

namespace Cursor

variable {σ : Type*}

/-- What a step from position `p` returns: the state after it, and the position it moved on
to, past `p`, or `none` when it failed. -/
abbrev Advance (σ : Type*) (p : Nat) := σ × Option {q : Nat // p < q}

/-- `while (p < pEnd) { p = step(p); if (!p) return NULL; }`: the state the loop stops in and
the position it stops at, or `none` when a step failed. -/
def cursorLoop (step : (p : Nat) → σ → Advance σ p) (pEnd p : Nat) (s : σ) :
    σ × Option {q : Nat // p ≤ q} :=
  if p < pEnd then
    match step p s with
    | (s', none) => (s', none)
    | (s', some ⟨q, hq⟩) =>
      let rest := cursorLoop step pEnd q s'
      (rest.1, rest.2.map fun r => ⟨r.1, Nat.le_trans (Nat.le_of_lt hq) r.2⟩)
  else (s, some ⟨p, Nat.le_refl p⟩)
termination_by pEnd - p

variable {step : (p : Nat) → σ → Advance σ p} {pEnd p : Nat} {s : σ}

theorem cursorLoop_of_le (h : pEnd ≤ p) :
    cursorLoop step pEnd p s = (s, some ⟨p, Nat.le_refl p⟩) := by
  rw [cursorLoop, if_neg (by omega)]

theorem cursorLoop_of_fail {s' : σ} (h : p < pEnd) (fail : step p s = (s', none)) :
    cursorLoop step pEnd p s = (s', none) := by
  rw [cursorLoop, if_pos h, fail]

/-- An iteration that moves on to `q`: the loop goes on from there, with the same state and
position at the end. -/
theorem cursorLoop_of_next {s' : σ} {q : Nat} {hq : p < q} (h : p < pEnd)
    (next : step p s = (s', some ⟨q, hq⟩)) :
    (cursorLoop step pEnd p s).1 = (cursorLoop step pEnd q s').1 ∧
      ((cursorLoop step pEnd p s).2.map Subtype.val) =
        (cursorLoop step pEnd q s').2.map Subtype.val := by
  rw [cursorLoop, if_pos h, next]
  refine ⟨rfl, ?_⟩
  rw [Option.map_map]
  rfl

/-- **Invariant rule.** A predicate of the state that every step keeps holds of the state the
loop stops in, whether it stops at the end or at a failed step. -/
theorem cursorLoop_invariant (P : σ → Prop) (hstep : ∀ p s, p < pEnd → P s → P (step p s).1) :
    ∀ p s, P s → P (cursorLoop step pEnd p s).1 := by
  intro p s hs
  induction p, s using cursorLoop.induct step pEnd with
  | case1 p s h s' fail => rw [cursorLoop_of_fail h fail]; simpa [fail] using hstep p s h hs
  | case2 p s h s' q hq next ih =>
    rw [(cursorLoop_of_next h next).1]
    exact ih (by simpa [next] using hstep p s h hs)
  | case3 p s h => rw [cursorLoop_of_le (by omega)]; exact hs

/-- Loops whose steps agree at every position before the end run alike. -/
theorem cursorLoop_congr {step' : (p : Nat) → σ → Advance σ p}
    (same : ∀ p s, p < pEnd → step p s = step' p s) :
    ∀ p s, cursorLoop step pEnd p s = cursorLoop step' pEnd p s := by
  intro p s
  induction p, s using cursorLoop.induct step pEnd with
  | case1 p s h s' fail =>
    rw [cursorLoop_of_fail h fail, cursorLoop_of_fail h ((same p s h).symm.trans fail)]
  | case2 p s h s' q hq next ih =>
    rw [cursorLoop, if_pos h, next, cursorLoop, if_pos h, ← same p s h, next]
    dsimp only
    rw [ih]
  | case3 p s h => rw [cursorLoop_of_le (by omega), cursorLoop_of_le (by omega)]

/-- **Bounded stores.** A loop whose steps append at most one element to a list state, and go
on only while it holds fewer than `N`, stops with at most `N` elements, whether it stops at
the end or at a failed step. -/
theorem cursorLoop_length_le {α : Type*} {step : (p : Nat) → List α → Advance (List α) p}
    {N : Nat} (grow : ∀ p s, p < pEnd → s.length < N → (step p s).1.length ≤ s.length + 1)
    (full : ∀ p s, p < pEnd → s.length < N → (step p s).2.isSome → (step p s).1.length < N) :
    ∀ p s, s.length < N → (cursorLoop step pEnd p s).1.length ≤ N := by
  intro p s hs
  induction p, s using cursorLoop.induct step pEnd with
  | case1 p s h s' fail =>
    rw [cursorLoop_of_fail h fail]
    have := grow p s h hs
    rw [fail] at this
    exact Nat.le_trans this hs
  | case2 p s h s' q hq next ih =>
    rw [(cursorLoop_of_next h next).1]
    have room := full p s h hs (by rw [next]; rfl)
    rw [next] at room
    exact ih room
  | case3 p s h =>
    rw [cursorLoop_of_le (by omega)]
    exact Nat.le_of_lt hs

end Cursor

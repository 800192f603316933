import Mathlib

/-!
# Guarded machines and their runs

A component driven by events (a protocol endpoint, a cache, a scheduler) is modelled
by a deterministic transition function `exec` together with a guard saying which
events its callers may deliver in a state. A run is a list of events, each allowed by
the guard in the state reached so far.

The one proof rule the developments above use is `Run.invariant`: a predicate that
holds initially and is preserved by every guarded step holds after every run, and so
in every reachable state (`Reachable.invariant`).
-/

namespace Lts

/-- A deterministic transition function with a guard on the events callers deliver. -/
structure Machine (σ ι : Type*) where
  guard : σ → ι → Prop
  exec : σ → ι → σ

variable {σ ι : Type*}

namespace Machine

variable (M : Machine σ ι)

/-- `M.Run s es t`: delivering the events `es` in order, each allowed by the guard, leads
from `s` to `t`. -/
inductive Run : σ → List ι → σ → Prop where
  | nil (s : σ) : Run s [] s
  | cons {s t : σ} {e : ι} {es : List ι} :
      M.guard s e → Run (M.exec s e) es t → Run s (e :: es) t

/-- The states some run reaches from `s₀`. -/
def Reachable (s₀ s : σ) : Prop := ∃ es, M.Run s₀ es s

variable {M}

theorem Run.single {s : σ} {e : ι} (h : M.guard s e) : M.Run s [e] (M.exec s e) :=
  .cons h (.nil _)

theorem Run.append {s t u : σ} {es fs : List ι} (h₁ : M.Run s es t) (h₂ : M.Run t fs u) :
    M.Run s (es ++ fs) u := by
  induction h₁ with
  | nil => exact h₂
  | cons hg _ ih => exact .cons hg (ih h₂)

theorem Run.snoc {s t : σ} {es : List ι} {e : ι} (h : M.Run s es t) (hg : M.guard t e) :
    M.Run s (es ++ [e]) (M.exec t e) :=
  h.append (.single hg)

/-- **Invariant rule.** A predicate that holds at the start and is preserved by every
guarded step holds at the end of every run. -/
theorem Run.invariant {P : σ → Prop} {s t : σ} {es : List ι} (h : M.Run s es t) (h₀ : P s)
    (hstep : ∀ s e, P s → M.guard s e → P (M.exec s e)) : P t := by
  induction h with
  | nil => exact h₀
  | cons hg _ ih => exact ih (hstep _ _ h₀ hg)

theorem Reachable.refl (s : σ) : M.Reachable s s := ⟨[], .nil s⟩

theorem Reachable.step {s₀ s : σ} {e : ι} (h : M.Reachable s₀ s) (hg : M.guard s e) :
    M.Reachable s₀ (M.exec s e) := by
  obtain ⟨es, hr⟩ := h
  exact ⟨es ++ [e], hr.snoc hg⟩

/-- Reachable states satisfy every inductive invariant. -/
theorem Reachable.invariant {P : σ → Prop} {s₀ s : σ} (h : M.Reachable s₀ s) (h₀ : P s₀)
    (hstep : ∀ s e, P s → M.guard s e → P (M.exec s e)) : P s := by
  obtain ⟨es, hr⟩ := h
  exact hr.invariant h₀ hstep

end Machine

end Lts

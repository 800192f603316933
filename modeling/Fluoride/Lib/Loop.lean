import Mathlib.Order.Basic

/-!
# Bounded `while` loops

An imperative `while (cond) body;` whose termination is in question is modelled with an
explicit fuel: `whileLoop cont body result fuel s` runs `body` from `s` while `cont`
holds and returns `result` of the state it stops in, or `none` when the fuel runs out
first. A `for` loop whose body may move its own index back is the same thing, with
the index in the state.

Its proof rules: `Runs k s t` says that `k` iterations lead from `s` to `t`, the
condition holding before each; runs compose, and a run that ends where the condition
fails gives the result for every fuel above its length. `whileLoop_isSome_of_measure`
is the variant rule (a measure the body decreases bounds the fuel needed, also under an
invariant: `whileLoop_isSome_of_measure_inv`),
`whileLoop_spec` the invariant rule for what a loop returns, and `whileLoop_congr` says
that only what the body does where the condition holds matters. Dually,
`whileLoop_eq_none_of_invariant`: a predicate that implies the condition and is
preserved by the body keeps the loop going for ever, so no fuel gives a result.
-/

namespace Loop

variable {σ β : Type*} (cont : σ → Prop) (body : σ → σ) (result : σ → β)

/-- `Runs k s t`: `k` iterations lead from `s` to `t`, the condition holding before each. -/
inductive Runs : Nat → σ → σ → Prop where
  | refl (s : σ) : Runs 0 s s
  | step {k : Nat} {s t : σ} : cont s → Runs k (body s) t → Runs (k + 1) s t

section Runs

variable {cont body}

theorem Runs.single {s : σ} (h : cont s) : Runs cont body 1 s (body s) :=
  .step h (.refl _)

theorem Runs.trans {k m : Nat} {s t u : σ} (h₁ : Runs cont body k s t)
    (h₂ : Runs cont body m t u) : Runs cont body (k + m) s u := by
  induction h₁ with
  | refl => simpa using h₂
  | step hc _ ih =>
    rw [Nat.add_right_comm]
    exact .step hc (ih h₂)

/-- An iteration that happens only when `p` does: one step to `f s`, or none. -/
theorem Runs.optional {p : Prop} [Decidable p] {f : σ → σ} {s : σ}
    (h : p → cont s ∧ body s = f s) :
    Runs cont body (if p then 1 else 0) s (if p then f s else s) := by
  by_cases hp : p
  · obtain ⟨hc, hb⟩ := h hp
    rw [if_pos hp, if_pos hp, ← hb]
    exact .single hc
  · rw [if_neg hp, if_neg hp]
    exact .refl s

end Runs

variable [DecidablePred cont]

/-- At most `fuel` iterations of `while (cont s) s = body s;`, then `result s`. -/
def whileLoop : Nat → σ → Option β
  | 0, _ => none
  | fuel + 1, s => if cont s then whileLoop fuel (body s) else some (result s)

variable {cont body result}

@[simp] theorem whileLoop_zero (s : σ) : whileLoop cont body result 0 s = none := rfl

theorem whileLoop_succ_of_cont {s : σ} (h : cont s) (fuel : Nat) :
    whileLoop cont body result (fuel + 1) s = whileLoop cont body result fuel (body s) := by
  simp only [whileLoop, if_pos h]

theorem whileLoop_succ_of_not_cont {s : σ} (h : ¬ cont s) (fuel : Nat) :
    whileLoop cont body result (fuel + 1) s = some (result s) := by
  simp only [whileLoop, if_neg h]

/-- A run of `k` iterations costs exactly `k` units of fuel. -/
theorem Runs.whileLoop_add {k : Nat} {s t : σ} (h : Runs cont body k s t) (fuel : Nat) :
    whileLoop cont body result (fuel + k) s = whileLoop cont body result fuel t := by
  induction h with
  | refl => rfl
  | step hc _ ih =>
    rw [← Nat.add_assoc, whileLoop_succ_of_cont hc, ih]

/-- **Termination rule.** A run that ends where the condition fails gives its result
for every fuel above its length. -/
theorem Runs.whileLoop_eq {k fuel : Nat} {s t : σ} (h : Runs cont body k s t) (ht : ¬ cont t)
    (hfuel : k < fuel) : whileLoop cont body result fuel s = some (result t) := by
  obtain ⟨f, rfl⟩ : ∃ f, fuel = (f + 1) + k := ⟨fuel - k - 1, by omega⟩
  rw [h.whileLoop_add, whileLoop_succ_of_not_cont ht]

/-- **Variant rule.** If the body decreases a measure wherever the condition holds, fuel
above the measure of the start suffices: the loop returns. -/
theorem whileLoop_isSome_of_measure (μ : σ → Nat) (hdec : ∀ s, cont s → μ (body s) < μ s) :
    ∀ (fuel : Nat) (s : σ), μ s < fuel → (whileLoop cont body result fuel s).isSome
  | 0, _, h => absurd h (Nat.not_lt_zero _)
  | fuel + 1, s, h => by
    by_cases hc : cont s
    · rw [whileLoop_succ_of_cont hc]
      exact whileLoop_isSome_of_measure μ hdec fuel (body s) (by have := hdec s hc; omega)
    · rw [whileLoop_succ_of_not_cont hc]
      rfl

/-- **Variant rule under an invariant.** If the body keeps a predicate and decreases a measure
wherever the condition and the predicate hold, fuel above the measure of a start satisfying the
predicate suffices: the loop returns. -/
theorem whileLoop_isSome_of_measure_inv (P : σ → Prop) (μ : σ → Nat)
    (hbody : ∀ s, cont s → P s → P (body s)) (hdec : ∀ s, cont s → P s → μ (body s) < μ s) :
    ∀ (fuel : Nat) (s : σ), P s → μ s < fuel → (whileLoop cont body result fuel s).isSome
  | 0, _, _, h => absurd h (Nat.not_lt_zero _)
  | fuel + 1, s, hs, h => by
    by_cases hc : cont s
    · rw [whileLoop_succ_of_cont hc]
      exact whileLoop_isSome_of_measure_inv P μ hbody hdec fuel (body s) (hbody s hc hs)
        (by have := hdec s hc hs; omega)
    · rw [whileLoop_succ_of_not_cont hc]
      rfl

/-- **Invariant rule.** A predicate that holds at the start and is preserved by every
iteration holds of the state the loop returns from, where the condition fails. -/
theorem whileLoop_spec (P : σ → Prop) (hbody : ∀ s, cont s → P s → P (body s)) :
    ∀ {fuel : Nat} {s : σ} {r : β}, P s → whileLoop cont body result fuel s = some r →
      ∃ t, P t ∧ ¬ cont t ∧ result t = r
  | 0, _, _, _, h => by simp at h
  | fuel + 1, s, r, hs, h => by
    by_cases hc : cont s
    · rw [whileLoop_succ_of_cont hc] at h
      exact whileLoop_spec P hbody (hbody s hc hs) h
    · rw [whileLoop_succ_of_not_cont hc, Option.some.injEq] at h
      exact ⟨s, hs, hc, h⟩

/-- Two bodies that agree wherever the condition holds give the same loop. -/
theorem whileLoop_congr {body' : σ → σ} (h : ∀ s, cont s → body s = body' s) :
    ∀ (fuel : Nat) (s : σ),
      whileLoop cont body result fuel s = whileLoop cont body' result fuel s
  | 0, _ => rfl
  | fuel + 1, s => by
    by_cases hc : cont s
    · rw [whileLoop_succ_of_cont hc, whileLoop_succ_of_cont hc, h s hc,
        whileLoop_congr h fuel (body' s)]
    · rw [whileLoop_succ_of_not_cont hc, whileLoop_succ_of_not_cont hc]

/-- **Divergence rule.** A predicate that implies the condition and is preserved by the
body keeps the loop running: no fuel gives a result. -/
theorem whileLoop_eq_none_of_invariant (P : σ → Prop) (hcont : ∀ s, P s → cont s)
    (hbody : ∀ s, P s → P (body s)) {s : σ} (hs : P s) (fuel : Nat) :
    whileLoop cont body result fuel s = none := by
  induction fuel generalizing s with
  | zero => rfl
  | succ fuel ih => rw [whileLoop_succ_of_cont (hcont s hs), ih (hbody s hs)]

end Loop

import Mathlib.Logic.Basic

/-!
# Objects called in sequence, and refinement

An object called through a fixed set of operations is a step function
`step : σ → ι → ρ × σ`: a call in a state returns a reply and the next state. `replay` feeds
it a list of calls and collects the replies. Callers may be held to a precondition per call
(`Allowed`): an assertion of the code, or what its interface demands of the arguments.

An object refines another through an abstraction function `abs` when each allowed call, from
every state satisfying an invariant, returns the reply the abstract object returns from the
abstract state, and leads to a state whose abstraction is the abstract object's next state.
Then every allowed sequence of calls does (`replay_refines`). A log the object keeps grows, over
a sequence of calls, by what each call adds to it (`replay_log`); a property of the reply to
every call from an invariant state holds of every reply to a sequence of calls
(`replay_replies`). The rules are stated for an arbitrary invariant so that a development can
carry what its proofs of one step need.
-/

namespace Lts

variable {σ σ' ι ρ : Type*}

/-- The replies to the calls `ops` made from `s`, and the state they leave. -/
def replay (step : σ → ι → ρ × σ) : σ → List ι → List ρ × σ
  | s, [] => ([], s)
  | s, op :: ops =>
    let (reply, s') := step s op
    let (replies, t) := replay step s' ops
    (reply :: replies, t)

/-- Every call of `ops` satisfies `guard` in the state the calls before it left. -/
def Allowed (guard : σ → ι → Prop) (step : σ → ι → ρ × σ) : σ → List ι → Prop
  | _, [] => True
  | s, op :: ops => guard s op ∧ Allowed guard step (step s op).2 ops

/-- What `delta` reports of each call of `ops` made from `s`, from the state before the call
to the state after it, in order. -/
def collect {β : Type*} (delta : σ → σ → List β) (step : σ → ι → ρ × σ) : σ → List ι → List β
  | _, [] => []
  | s, op :: ops => delta s (step s op).2 ++ collect delta step (step s op).2 ops

variable {step : σ → ι → ρ × σ}

@[simp] theorem collect_nil {β : Type*} (delta : σ → σ → List β) (s : σ) :
    collect delta step s [] = [] := rfl

@[simp] theorem collect_cons {β : Type*} (delta : σ → σ → List β) (s : σ) (op : ι) (ops : List ι) :
    collect delta step s (op :: ops) = delta s (step s op).2 ++ collect delta step (step s op).2 ops :=
  rfl

@[simp] theorem replay_nil (s : σ) : replay step s [] = ([], s) := rfl

@[simp] theorem replay_cons (s : σ) (op : ι) (ops : List ι) :
    replay step s (op :: ops) =
      ((step s op).1 :: (replay step (step s op).2 ops).1, (replay step (step s op).2 ops).2) :=
  rfl

@[simp] theorem replay_singleton_snd (s : σ) (op : ι) : (replay step s [op]).2 = (step s op).2 :=
  rfl

/-- Two sequences of calls, one after the other. -/
theorem replay_append_snd (s : σ) (ops ops' : List ι) :
    (replay step s (ops ++ ops')).2 = (replay step (replay step s ops).2 ops').2 := by
  induction ops generalizing s with
  | nil => rfl
  | cons op ops ih =>
    rw [List.cons_append, replay_cons, replay_cons]
    exact ih _

@[simp] theorem allowed_nil (guard : σ → ι → Prop) (s : σ) : Allowed guard step s [] := trivial

@[simp] theorem allowed_cons (guard : σ → ι → Prop) (s : σ) (op : ι) (ops : List ι) :
    Allowed guard step s (op :: ops) ↔ guard s op ∧ Allowed guard step (step s op).2 ops :=
  Iff.rfl

section Invariant

variable (guard : σ → ι → Prop) (Inv : σ → Prop)

/-- **Invariant rule.** A predicate preserved by every allowed call holds after every allowed
sequence of calls. -/
theorem replay_invariant (preserved : ∀ s op, Inv s → guard s op → Inv (step s op).2)
    {s : σ} (hs : Inv s) {ops : List ι} (allowed : Allowed guard step s ops) :
    Inv (replay step s ops).2 := by
  induction ops generalizing s with
  | nil => exact hs
  | cons op ops ih => exact ih (preserved s op hs allowed.1) allowed.2

/-- **Refinement rule.** When each allowed call from an invariant state answers as the
abstract object does from the abstract state and leaves a state abstracting to the abstract
object's next one, every allowed sequence of calls does. -/
theorem replay_refines {step' : σ' → ι → ρ × σ'} (abs : σ → σ')
    (preserved : ∀ s op, Inv s → guard s op → Inv (step s op).2)
    (simulates : ∀ s op, Inv s → guard s op → step' (abs s) op = ((step s op).1, abs (step s op).2))
    {s : σ} (hs : Inv s) {ops : List ι} (allowed : Allowed guard step s ops) :
    replay step' (abs s) ops = ((replay step s ops).1, abs (replay step s ops).2) := by
  induction ops generalizing s with
  | nil => rfl
  | cons op ops ih =>
    have next := ih (preserved s op hs allowed.1) allowed.2
    rw [replay_cons, simulates s op hs allowed.1, replay_cons]
    dsimp only
    rw [next]

/-- **Log rule.** When every allowed call from an invariant state extends `log` by what `delta`
reports of the call (from the state before it to the state after it), a sequence of calls
extends `log` by what `delta` reports of each call in turn. -/
theorem replay_log {β : Type*} (delta : σ → σ → List β) (log : σ → List β)
    (preserved : ∀ s op, Inv s → guard s op → Inv (step s op).2)
    (extends_log : ∀ s op, Inv s → guard s op → log (step s op).2 = log s ++ delta s (step s op).2)
    {s : σ} (hs : Inv s) {ops : List ι} (allowed : Allowed guard step s ops) :
    log (replay step s ops).2 = log s ++ collect delta step s ops := by
  induction ops generalizing s with
  | nil => simp
  | cons op ops ih =>
    rw [replay_cons, collect_cons, ih (preserved s op hs allowed.1) allowed.2,
      extends_log s op hs allowed.1, List.append_assoc]

/-- **Reply rule.** When every allowed call from an invariant state keeps the invariant and
answers with a reply satisfying `Ok`, every reply of an allowed sequence of calls does. -/
theorem replay_replies (Ok : ρ → Prop) (preserved : ∀ s op, Inv s → guard s op → Inv (step s op).2)
    (answers : ∀ s op, Inv s → guard s op → Ok (step s op).1)
    {s : σ} (hs : Inv s) {ops : List ι} (allowed : Allowed guard step s ops) :
    ∀ r ∈ (replay step s ops).1, Ok r := by
  induction ops generalizing s with
  | nil => simp
  | cons op ops ih =>
    intro r mem
    rw [replay_cons] at mem
    rcases List.mem_cons.1 mem with rfl | later
    · exact answers s op hs allowed.1
    · exact ih (preserved s op hs allowed.1) allowed.2 r later

end Invariant

/-- A sequence of calls is allowed when each of its calls is, in every state. -/
theorem allowed_of_mem (guard : σ → ι → Prop) {ops : List ι} (always : ∀ op ∈ ops, ∀ s, guard s op)
    (s : σ) : Allowed guard step s ops := by
  induction ops generalizing s with
  | nil => trivial
  | cons op ops ih =>
    exact ⟨always op List.mem_cons_self s, ih (fun op' mem => always op' (List.mem_cons_of_mem _ mem)) _⟩

/-- Every sequence of calls is allowed when every call is. -/
theorem allowed_of_forall (guard : σ → ι → Prop) (always : ∀ s op, guard s op) (s : σ)
    (ops : List ι) : Allowed guard step s ops := by
  induction ops generalizing s with
  | nil => trivial
  | cons op ops ih => exact ⟨always s op, ih _⟩

end Lts

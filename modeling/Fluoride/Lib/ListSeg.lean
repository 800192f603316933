import Mathlib

/-!
# List segments in a heap

A heap maps addresses to cells, and each cell points to a next address. `Seg heap x l y` is
the list segment of separation logic: following the pointers from `x` visits the cells at the
addresses `l`, in order, none of them at the null address, and arrives at `y`. A null-terminated
chain is a segment that ends at `null`.

Segments compose and split at any point (`Seg.append`, `Seg.split`). They hold in any heap that
agrees on their cells (`Seg.frame`), so a write elsewhere, or at a fresh address, keeps them. A
chain is determined by where it starts (`Seg.chain_unique`), and so visits no address twice
(`Seg.chain_nodup`): a chain has no cycle. `walk`, which follows the pointers for a bounded
number of steps, reads a chain back (`walk_of_chain`).
-/

namespace ListSeg

variable {α ν : Type*} (null : α) (next : ν → α)

/-- From `x`, the cells at `l`, in order, and then `y`. -/
inductive Seg (heap : α → Option ν) : α → List α → α → Prop
  | nil (x : α) : Seg heap x [] x
  | cons {a y : α} {n : ν} {rest : List α} :
      a ≠ null → heap a = some n → Seg heap (next n) rest y → Seg heap a (a :: rest) y

/-- The addresses met following the pointers from `x`, for at most `fuel` cells: it stops at
`null` and at an address with no cell. -/
def walk [DecidableEq α] (heap : α → Option ν) : Nat → α → List α
  | 0, _ => []
  | fuel + 1, x =>
    if x = null then []
    else match heap x with
      | none => []
      | some n => x :: walk heap fuel (next n)

variable {null next} {heap heap' : α → Option ν}

namespace Seg

theorem single {a y : α} {n : ν} (ne : a ≠ null) (cell : heap a = some n) (link : next n = y) :
    Seg null next heap a [a] y :=
  .cons ne cell (link ▸ .nil _)

theorem append {x y z : α} {l₁ l₂ : List α} (first : Seg null next heap x l₁ y)
    (second : Seg null next heap y l₂ z) : Seg null next heap x (l₁ ++ l₂) z := by
  induction first with
  | nil => exact second
  | cons ne cell _ ih => exact .cons ne cell (ih second)

theorem split {x z : α} {l₁ l₂ : List α} (seg : Seg null next heap x (l₁ ++ l₂) z) :
    ∃ y, Seg null next heap x l₁ y ∧ Seg null next heap y l₂ z := by
  induction l₁ generalizing x with
  | nil => exact ⟨x, .nil x, seg⟩
  | cons a l₁ ih =>
    cases seg with
    | cons ne cell rest =>
      obtain ⟨y, first, second⟩ := ih rest
      exact ⟨y, .cons ne cell first, second⟩

/-- A segment holds in every heap that agrees on its cells. -/
theorem frame {x y : α} {l : List α} (seg : Seg null next heap x l y)
    (agree : ∀ a ∈ l, heap' a = heap a) : Seg null next heap' x l y := by
  induction seg with
  | nil => exact .nil _
  | cons ne cell _ ih =>
    refine .cons ne ((agree _ List.mem_cons_self).trans cell) (ih fun a mem => ?_)
    exact agree a (List.mem_cons_of_mem _ mem)

/-- A write to an address off the segment keeps it. -/
theorem update_of_not_mem [DecidableEq α] {x y a : α} {l : List α}
    (seg : Seg null next heap x l y) (out : a ∉ l) (v : Option ν) :
    Seg null next (Function.update heap a v) x l y :=
  seg.frame fun b mem => Function.update_of_ne (fun same : b = a => out (same ▸ mem)) _ _

/-- Every address a segment visits holds a cell and is not null. -/
theorem mem {x y a : α} {l : List α} (seg : Seg null next heap x l y) (mem : a ∈ l) :
    a ≠ null ∧ ∃ n, heap a = some n := by
  induction seg with
  | nil => exact absurd mem List.not_mem_nil
  | cons ne cell _ ih =>
    rcases List.mem_cons.1 mem with rfl | later
    · exact ⟨ne, _, cell⟩
    · exact ih later

/-- A fresh address is on no segment. -/
theorem not_mem_of_fresh {x y a : α} {l : List α} (seg : Seg null next heap x l y)
    (fresh : heap a = none) : a ∉ l := fun mem => by
  obtain ⟨_, n, cell⟩ := seg.mem mem
  rw [fresh] at cell
  cases cell

theorem head_eq_null {x : α} {l : List α} (chain : Seg null next heap x l null) :
    x = null ↔ l = [] := by
  cases chain with
  | nil => exact ⟨fun _ => rfl, fun _ => rfl⟩
  | cons ne _ _ => exact ⟨fun eq => absurd eq ne, fun eq => nomatch eq⟩

/-- A chain is determined by where it starts. -/
theorem chain_unique {x : α} {l l' : List α} (chain : Seg null next heap x l null)
    (chain' : Seg null next heap x l' null) : l = l' := by
  induction l generalizing x l' with
  | nil =>
    cases chain
    exact ((head_eq_null chain').1 rfl).symm
  | cons a rest ih =>
    cases chain with
    | cons ne cell tail =>
      cases chain' with
      | nil => exact absurd rfl ne
      | cons _ cell' tail' =>
        rw [cell] at cell'
        cases cell'
        rw [ih tail tail']

/-- The first cell of a segment, and the rest of it. -/
theorem cons_inv {x y a : α} {rest : List α} (seg : Seg null next heap x (a :: rest) y) :
    x = a ∧ a ≠ null ∧ ∃ n, heap a = some n ∧ Seg null next heap (next n) rest y := by
  cases seg with
  | cons ne cell rest => exact ⟨rfl, ne, _, cell, rest⟩

/-- The last cell of a chain points to `null`. -/
theorem chain_last {x t : α} {l : List α} (chain : Seg null next heap x (l ++ [t]) null) :
    Seg null next heap x l t ∧ t ≠ null ∧ ∃ n, heap t = some n ∧ next n = null := by
  obtain ⟨y, first, second⟩ := chain.split
  obtain ⟨rfl, ne, n, cell, rest⟩ := second.cons_inv
  cases rest
  exact ⟨first, ne, n, cell, rfl⟩

/-- The chain from an address on a chain is a suffix of it. -/
theorem chain_suffix {x a : α} {l : List α} (chain : Seg null next heap x l null) (mem : a ∈ l) :
    ∃ l', Seg null next heap a l' null ∧ l' <:+ l := by
  obtain ⟨s, t, rfl⟩ := List.append_of_mem mem
  obtain ⟨y, _, second⟩ := chain.split
  cases second with
  | cons ne cell rest => exact ⟨a :: t, .cons ne cell rest, List.suffix_append _ _⟩

/-- **A chain has no cycle**: it visits no address twice. -/
theorem chain_nodup {x : α} {l : List α} (chain : Seg null next heap x l null) : l.Nodup := by
  induction l generalizing x with
  | nil => exact List.nodup_nil
  | cons a rest ih =>
    cases chain with
    | cons ne cell tail =>
      refine List.nodup_cons.2 ⟨fun again => ?_, ih tail⟩
      -- from `a` again, the chain would be both `a :: rest` and a suffix of `rest`
      obtain ⟨l', chain', suffix⟩ := tail.chain_suffix again
      have same := chain_unique (.cons ne cell tail) chain'
      have := suffix.length_le
      rw [← same, List.length_cons] at this
      omega

end Seg

/-- `walk` reads a chain back, given fuel for each of its cells. -/
theorem walk_of_chain [DecidableEq α] {x : α} {l : List α} (chain : Seg null next heap x l null)
    {fuel : Nat} (enough : l.length ≤ fuel) : walk null next heap fuel x = l := by
  induction l generalizing x fuel with
  | nil =>
    cases chain
    cases fuel with
    | zero => rfl
    | succ fuel => simp [walk]
  | cons a rest ih =>
    cases chain with
    | cons ne cell tail =>
      cases fuel with
      | zero => simp at enough
      | succ fuel =>
        rw [walk, if_neg ne, cell]
        simp only [List.cons.injEq, true_and]
        exact ih tail (by simpa using enough)

end ListSeg

import Mathlib

/-!
# Lists changed by additions and removals

A store that holds a collection of entries, and whose operations reorder it, add entries to it
and take entries out of it, is described up to order: after an operation the entries held,
together with those taken out, are a permutation of those added together with those held before
(`ListChange`). What such a description says about the entries held is what the proofs of
invariants need: no entry is held twice when none was before and what is added is new
(`ListChange.nodup`), every entry held was held or added (`ListChange.mem`), and the set of
entries held is the old set with the added ones and without the removed ones
(`ListChange.toFinset_eq`), and what went missing is what was taken out
(`ListChange.filter_not_mem_of_single`). Changes compose side by side (`ListChange.append`), and
an entry that is added and taken out in one operation (a move between two parts of the store)
cancels (`ListChange.cancel`).
-/

variable {β γ : Type*}

/-- `l'` holds what `l` holds, with `added` put in and `removed` taken out, in any order. -/
def ListChange (l l' added removed : List β) : Prop := (l' ++ removed).Perm (added ++ l)

namespace ListChange

variable {l l' a r : List β}

/-- A reordering adds and removes nothing. -/
theorem of_perm (h : l'.Perm l) : ListChange l l' [] [] := by
  simpa [ListChange] using h

theorem refl (l : List β) : ListChange l l [] [] := of_perm (List.Perm.refl l)

/-- Two changes one after the other. -/
theorem trans {l'' b s : List β} (c : ListChange l l' a r) (d : ListChange l' l'' b s) :
    ListChange l l'' (b ++ a) (s ++ r) := by
  unfold ListChange at *
  have first : (l'' ++ s ++ r).Perm (b ++ (l' ++ r)) := by
    simpa only [List.append_assoc] using d.append_right r
  simpa only [List.append_assoc] using first.trans (c.append_left b)

theorem map (c : ListChange l l' a r) (f : β → γ) :
    ListChange (l.map f) (l'.map f) (a.map f) (r.map f) := by
  simpa only [ListChange, List.map_append] using List.Perm.map f c

/-- The middle two of four lists swapped. -/
theorem perm_swap_middle (w x y z : List β) :
    ((w ++ x) ++ (y ++ z)).Perm ((w ++ y) ++ (x ++ z)) := by
  simpa only [List.append_assoc] using
    ((List.perm_append_comm : (x ++ y).Perm (y ++ x)).append_right z).append_left w

/-- The changes of two parts of a store, side by side. -/
theorem append {t t' b s : List β} (c : ListChange l l' a r) (d : ListChange t t' b s) :
    ListChange (l ++ t) (l' ++ t') (a ++ b) (r ++ s) := by
  -- regroup each part's entries with its removals, change both, and regroup again
  have both : ((l' ++ r) ++ (t' ++ s)).Perm ((a ++ l) ++ (b ++ t)) := List.Perm.append c d
  exact ((perm_swap_middle l' t' r s).trans both).trans (perm_swap_middle a l b t)

/-- An entry both added and taken out cancels. -/
theorem cancel {x : β} {r₁ r₂ : List β} (c : ListChange l l' (x :: a) (r₁ ++ x :: r₂)) :
    ListChange l l' a (r₁ ++ r₂) := by
  unfold ListChange at *
  have moved : (l' ++ (r₁ ++ x :: r₂)).Perm (x :: (l' ++ (r₁ ++ r₂))) := by
    simpa only [List.append_assoc] using
      (List.perm_middle : (l' ++ r₁ ++ x :: r₂).Perm (x :: (l' ++ r₁ ++ r₂)))
  exact (moved.symm.trans c).cons_inv

theorem nodup (c : ListChange l l' a r) (fresh : (a ++ l).Nodup) : (l' ++ r).Nodup :=
  c.nodup_iff.2 fresh

theorem nodup_left (c : ListChange l l' a r) (fresh : (a ++ l).Nodup) : l'.Nodup :=
  (c.nodup fresh).of_append_left

theorem mem (c : ListChange l l' a r) {x : β} (held : x ∈ l') : x ∈ a ∨ x ∈ l :=
  List.mem_append.1 (c.mem_iff.1 (List.mem_append_left r held))

/-- The set held after the change. -/
theorem toFinset_eq [DecidableEq β] (c : ListChange l l' a r) (fresh : (a ++ l).Nodup) :
    l'.toFinset = (a ++ l).toFinset \ r.toFinset := by
  have disjoint : Disjoint l'.toFinset r.toFinset :=
    List.disjoint_toFinset_iff_disjoint.2 (List.disjoint_of_nodup_append (c.nodup fresh))
  rw [← List.toFinset_eq_of_perm _ _ c, List.toFinset_append,
    Finset.union_sdiff_cancel_right disjoint]

/-- Nothing held before is missing after a change that takes nothing out. The test for missing
entries is any `p` that decides `x ∉ l'`. -/
theorem filter_not_mem_of_nil (c : ListChange l l' a []) {p : β → Bool}
    (missing : ∀ x, p x = true ↔ x ∉ l') : l.filter p = [] := by
  refine List.filter_eq_nil_iff.2 fun x held => ?_
  have kept : x ∈ l' ++ [] := c.mem_iff.2 (List.mem_append_right a held)
  rw [missing, not_not]
  simpa using kept

/-- What is missing after a change that takes out one entry held before is that entry. -/
theorem filter_not_mem_of_single [DecidableEq β] {e : β} (c : ListChange l l' a [e])
    (fresh : (a ++ l).Nodup) (old : e ∈ l) {p : β → Bool} (missing : ∀ x, p x = true ↔ x ∉ l') :
    l.filter p = [e] := by
  have gone : e ∉ l' := fun kept =>
    (List.nodup_append.1 (c.nodup fresh)).2.2 e kept e (List.mem_singleton_self e) rfl
  -- an entry held before is missing after exactly when it is the one taken out
  have only : ∀ x ∈ l, p x = decide (x = e) := by
    intro x held
    have kept : x ∈ l' ++ [e] := c.mem_iff.2 (List.mem_append_right a held)
    by_cases same : x = e
    · simp [same, missing, gone]
    · have stays : x ∈ l' := by simpa [same] using kept
      have notMissing : p x ≠ true := fun yes => (missing x).1 yes stays
      simpa [same] using notMissing
  rw [List.filter_congr only, List.filter_eq, List.count_eq_one_of_mem fresh.of_append_right old,
    List.replicate_one]

end ListChange

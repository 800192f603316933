import Mathlib.Data.UInt

/-!
# Walking every key of a finite ordered type, in order

A map over a finite key type is walked in key order by running over a list that holds every key
once, each smaller key before the larger. `KeyOrder κ` is such a list, with the two facts as
fields. Over it, the first key a walk finds and the greatest key a filter keeps are described
without the list:
* `find?` finds the least key where a test holds;
* the `max?` of a filter is the greatest key where the test holds.

The order is one of the core `Std` linear orders, which the fixed-width integers have.
`KeyOrder.uint16` walks the 65536 values of `UInt16`.
-/

/-- Every key of `κ`, in increasing order. -/
structure KeyOrder (κ : Type) [LT κ] where
  keys : List κ
  sorted : keys.Pairwise (· < ·)
  complete : ∀ k, k ∈ keys

namespace KeyOrder

variable {κ : Type} [LT κ] (w : KeyOrder κ) {q : κ → Bool} {k : κ}

section Linear

variable [LE κ] [Std.IsLinearOrder κ] [Std.LawfulOrderLT κ]

/-- What `find?` returns is the least key where the test holds. -/
theorem least_of_find? (found : w.keys.find? q = some k) : q k ∧ ∀ k', k' < k → q k' = false := by
  obtain ⟨holds, before, after, split, skipped⟩ := List.find?_eq_some_iff_append.1 found
  refine ⟨holds, fun k' lt => ?_⟩
  have sorted := w.sorted
  rw [split, List.pairwise_append, List.pairwise_cons] at sorted
  have mem := w.complete k'
  rw [split, List.mem_append, List.mem_cons] at mem
  rcases mem with early | rfl | late
  · simpa using skipped k' early
  · exact absurd lt Std.lt_irrefl
  · -- a key after `k` in the walk is greater than `k`
    have gt : k < k' := sorted.2.1.1 k' late
    exact absurd (Std.le_of_lt gt) (Std.not_le.2 lt)

theorem find?_eq_some_iff : w.keys.find? q = some k ↔ q k ∧ ∀ k', k' < k → q k' = false := by
  refine ⟨w.least_of_find?, fun ⟨holds, least⟩ => ?_⟩
  -- the walk finds some least key; two least keys are one
  obtain ⟨k'', found⟩ : ∃ k'', w.keys.find? q = some k'' := by
    refine Option.isSome_iff_exists.1 (List.find?_isSome.2 ⟨k, w.complete k, holds⟩)
  obtain ⟨holds'', least''⟩ := w.least_of_find? found
  rcases Std.lt_trichotomy k k'' with lt | rfl | gt
  · simp [least'' k lt] at holds
  · exact found
  · simp [least k'' gt] at holds''

end Linear

section Max

variable [Max κ]

/-- The greatest key a filter keeps is the greatest key where its test holds. -/
theorem max?_filter_eq_some_iff [LE κ] [Std.IsLinearOrder κ] [Std.LawfulOrderMax κ] :
    (w.keys.filter q).max? = some k ↔ q k ∧ ∀ k', q k' → k' ≤ k := by
  simp [List.max?_eq_some_iff, List.mem_filter, w.complete]

end Max

end KeyOrder

/-! ## `UInt16` -/

instance KeyOrder.lawfulOrderMaxUInt16 : Std.LawfulOrderMax UInt16 :=
  Std.LawfulOrderMax.of_max_le_iff
    (fun a b c => by
      simp only [UInt16.max_def]
      split_ifs with le <;> simp only [UInt16.le_iff_toNat_le] at * <;> omega)
    (fun a b => by
      simp only [UInt16.max_def]
      split_ifs <;> simp)

/-- The values of `UInt16`, from `0` to `65535`. -/
def KeyOrder.uint16 : KeyOrder UInt16 where
  keys := (List.range 65536).map Nat.toUInt16
  sorted := by
    rw [List.pairwise_map]
    refine List.pairwise_lt_range.imp_of_mem fun {a b} memA memB lt => ?_
    rw [List.mem_range] at memA memB
    rw [UInt16.lt_iff_toNat_lt, Nat.toUInt16_eq, Nat.toUInt16_eq, UInt16.toNat_ofNat',
      UInt16.toNat_ofNat']
    omega
  complete k := List.mem_map.2 ⟨k.toNat, List.mem_range.2 k.toNat_lt, by simp⟩

import Fluoride.Sdp.Utils
import Fluoride.Lib.AdjacentSwap

/-!
# `sdpu_sort_attr_list` sorts the attribute filters

`sdpu_sort_attr_list` sorts the first `min num_attr SDP_MAX_ATTR_FILTERS` entries of
`attr_filters` by swapping an out-of-order pair of neighbours and starting again from `0`. The
index alone does not decrease, so its variant is the number of inversions of the sorted prefix,
weighted above the distance of `i` to the end (`sortMeasure`): a swap removes one inversion
(`AdjacentSwap.inversions_swapNext`), a step on moves `i` towards the end.

The invariant `SortInv` says five things:
* the array keeps its length;
* its prefix is a permutation of the original prefix;
* the rest is unchanged;
* `i` is at most `num_attr - 1`;
* the neighbours below `i` are in order.

The loop stops with `i = num_attr - 1`, so the whole prefix is sorted.
-/

namespace Sdp

open AdjacentSwap

theorem sdpuSortAttrListBody_of_lt {st : SortAttrListState}
    (lt : st.attrFilters.getD (st.i + 1) 0 < st.attrFilters.getD st.i 0) :
    sdpuSortAttrListBody st = ⟨swapNext st.attrFilters st.i 0, 0⟩ := by
  simp only [sdpuSortAttrListBody, gt_iff_lt, if_pos lt]
  rfl

theorem sdpuSortAttrListBody_of_le {st : SortAttrListState}
    (le : st.attrFilters.getD st.i 0 ≤ st.attrFilters.getD (st.i + 1) 0) :
    sdpuSortAttrListBody st = ⟨st.attrFilters, st.i + 1⟩ := by
  simp only [sdpuSortAttrListBody, gt_iff_lt, if_neg (UInt16.not_lt.2 le)]

/-- The number of entries sorted: `num_attr`, at most `SDP_MAX_ATTR_FILTERS`. -/
theorem loop_bound {numAttr : UInt16} (two : ¬ numAttr ≤ 1) :
    ((if numAttr.toNat > sdpMaxAttrFilters then sdpMaxAttrFilters.toUInt16 else numAttr) - 1).toNat
      = min numAttr.toNat sdpMaxAttrFilters - 1 := by
  have : 1 < numAttr.toNat := by simpa [UInt16.le_iff_toNat_le] using two
  split_ifs with big
  · simp [sdpMaxAttrFilters] at big ⊢
    omega
  · simp only [sdpMaxAttrFilters, gt_iff_lt, not_lt] at big
    rw [UInt16.toNat_sub_of_le _ _ (by simp [UInt16.le_iff_toNat_le]; omega)]
    simp [sdpMaxAttrFilters, big]

section Loop

/-! ## The loop, sorting the first `m` entries of `orig` -/

variable {orig : List UInt16} {m : Nat}

/-- What holds of the loop's state before each test of `i < num_attr - 1`. -/
structure SortInv (orig : List UInt16) (m : Nat) (st : SortAttrListState) : Prop where
  length : st.attrFilters.length = orig.length
  perm : (st.attrFilters.take m).Perm (orig.take m)
  rest : st.attrFilters.drop m = orig.drop m
  index : st.i + 1 ≤ m
  ordered : ∀ j < st.i, st.attrFilters.getD j 0 ≤ st.attrFilters.getD (j + 1) 0

theorem sortInv_start (pos : 0 < m) : SortInv orig m ⟨orig, 0⟩ :=
  ⟨rfl, .refl _, rfl, pos, fun _ none => absurd none (Nat.not_lt_zero _)⟩

/-- Where the loop stops, the prefix is sorted. -/
theorem pairwise_le_of_exit {st : SortAttrListState} (inv : SortInv orig m st) (exit : ¬ st.i < m - 1) :
    (st.attrFilters.take m).Pairwise (· ≤ ·) := by
  refine pairwise_le_of_getD_le_succ 0 fun j below => ?_
  have inside : j + 1 < m := by simp at below; omega
  rw [getD_take inside, getD_take (by omega)]
  exact inv.ordered j (by omega)

variable (size : m ≤ orig.length)
include size

/-- **Step.** An iteration keeps the invariant. -/
theorem sortInv_body {st : SortAttrListState} (cont : st.i < m - 1) (inv : SortInv orig m st) :
    SortInv orig m (sdpuSortAttrListBody st) := by
  have inside : st.i + 1 < m := by omega
  have fits : m ≤ st.attrFilters.length := inv.length ▸ size
  by_cases lt : st.attrFilters.getD (st.i + 1) 0 < st.attrFilters.getD st.i 0
  · -- the swap: the prefix is permuted and `i` starts again
    rw [sdpuSortAttrListBody_of_lt lt]
    constructor
    · simp [inv.length]
    · exact (take_swapNext_perm inside fits 0).trans inv.perm
    · rw [drop_swapNext inside fits 0, inv.rest]
    · dsimp only
      omega
    · exact fun _ none => absurd none (Nat.not_lt_zero _)
  · -- a step on: the pair at `i` is in order
    rw [sdpuSortAttrListBody_of_le (UInt16.not_lt.1 lt)]
    refine ⟨inv.length, inv.perm, inv.rest, by dsimp only; omega, fun j below => ?_⟩
    rcases Nat.lt_succ_iff_lt_or_eq.1 below with before | rfl
    · exact inv.ordered j before
    · exact UInt16.not_lt.1 lt

/-- The variant: the inversions of the prefix, weighted above the distance of `i` to the end. -/
def sortMeasure (m : Nat) (st : SortAttrListState) : Nat :=
  inversions (st.attrFilters.take m) * m + (m - 1 - st.i)

/-- **Variant.** An iteration decreases `sortMeasure`. -/
theorem sortMeasure_body {st : SortAttrListState} (cont : st.i < m - 1) (inv : SortInv orig m st) :
    sortMeasure m (sdpuSortAttrListBody st) < sortMeasure m st := by
  have inside : st.i + 1 < m := by omega
  have fits : m ≤ st.attrFilters.length := inv.length ▸ size
  by_cases lt : st.attrFilters.getD (st.i + 1) 0 < st.attrFilters.getD st.i 0
  · -- one inversion fewer
    rw [sdpuSortAttrListBody_of_lt lt]
    have fewer := inversions_swapNext (l := st.attrFilters.take m) (i := st.i) (by simp; omega) 0
      (by rwa [getD_take inside, getD_take (by omega)])
    rw [← take_swapNext inside fits 0] at fewer
    simp only [sortMeasure]
    rw [← fewer, Nat.succ_mul]
    omega
  · -- the same inversions, `i` one nearer the end
    rw [sdpuSortAttrListBody_of_le (UInt16.not_lt.1 lt)]
    simp only [sortMeasure]
    omega

theorem sortMeasure_start_le (small : m ≤ sdpMaxAttrFilters) :
    sortMeasure m ⟨orig, 0⟩ < sdpMaxAttrFilters ^ 3 + sdpMaxAttrFilters := by
  have few := inversions_le_sq (orig.take m)
  rw [List.length_take_of_le size] at few
  have cube : inversions (orig.take m) * m ≤ sdpMaxAttrFilters ^ 3 :=
    calc inversions (orig.take m) * m ≤ m * m * m := Nat.mul_le_mul_right m few
      _ ≤ sdpMaxAttrFilters * sdpMaxAttrFilters * sdpMaxAttrFilters :=
        Nat.mul_le_mul (Nat.mul_le_mul small small) small
      _ = sdpMaxAttrFilters ^ 3 := by simp [sdpMaxAttrFilters]
  have pos : 0 < sdpMaxAttrFilters := by decide
  simp only [sortMeasure]
  omega

end Loop

/-- **`sdpu_sort_attr_list` terminates and sorts.** Given at least `SDP_MAX_ATTR_FILTERS ^ 3 +
SDP_MAX_ATTR_FILTERS` iterations of fuel, for every `num_attr` and every array holding the entries
it sorts, the loop stops. The first `min num_attr SDP_MAX_ATTR_FILTERS` entries are then sorted
in non-decreasing order, a permutation of what they held, and the rest of the array is as it
was. -/
theorem sdpu_sort_attr_list_sorts (numAttr : UInt16) (attrFilters : List UInt16)
    (size : min numAttr.toNat sdpMaxAttrFilters ≤ attrFilters.length) {fuel : Nat}
    (enough : sdpMaxAttrFilters ^ 3 + sdpMaxAttrFilters ≤ fuel) :
    ∃ sorted, sdpuSortAttrList fuel numAttr attrFilters = some sorted ∧
      (sorted.take (min numAttr.toNat sdpMaxAttrFilters)).Pairwise (· ≤ ·) ∧
      (sorted.take (min numAttr.toNat sdpMaxAttrFilters)).Perm
        (attrFilters.take (min numAttr.toNat sdpMaxAttrFilters)) ∧
      sorted.drop (min numAttr.toNat sdpMaxAttrFilters) =
        attrFilters.drop (min numAttr.toNat sdpMaxAttrFilters) := by
  by_cases few : numAttr ≤ 1
  · -- nothing to sort: at most one entry
    have one : min numAttr.toNat sdpMaxAttrFilters ≤ 1 := by
      simp [UInt16.le_iff_toNat_le] at few
      omega
    refine ⟨attrFilters, by simp [sdpuSortAttrList, few], ?_, .refl _, rfl⟩
    exact pairwise_le_of_getD_le_succ 0 fun j below => absurd below (by simp; omega)
  · set m := min numAttr.toNat sdpMaxAttrFilters with m_eq
    have two : 1 < m := by
      simp [UInt16.le_iff_toNat_le] at few
      simp [m_eq, sdpMaxAttrFilters]
      omega
    have small : m ≤ sdpMaxAttrFilters := Nat.min_le_right _ _
    simp only [sdpuSortAttrList, if_neg few, loop_bound few, ← m_eq]
    -- the variant bounds the iterations; the invariant gives the result
    have ends : (Loop.whileLoop (fun st => st.i < m - 1) sdpuSortAttrListBody
        SortAttrListState.attrFilters fuel ⟨attrFilters, 0⟩).isSome :=
      Loop.whileLoop_isSome_of_measure_inv (SortInv attrFilters m) (sortMeasure m)
        (fun _ cont inv => sortInv_body size cont inv)
        (fun _ cont inv => sortMeasure_body size cont inv) fuel _ (sortInv_start (by omega))
        (by have := sortMeasure_start_le size small; omega)
    obtain ⟨sorted, run⟩ := Option.isSome_iff_exists.1 ends
    obtain ⟨t, inv, exit, rfl⟩ := Loop.whileLoop_spec (SortInv attrFilters m)
      (fun _ cont inv => sortInv_body size cont inv) (sortInv_start (by omega)) run
    exact ⟨t.attrFilters, run, pairwise_le_of_exit inv exit, inv.perm, inv.rest⟩

/-- Three filters out of order, in an array of `SDP_MAX_ATTR_FILTERS`. -/
theorem sdpu_sort_attr_list_sorts_three :
    let filters : List UInt16 := [3, 1, 2] ++ List.replicate 12 0
    min (3 : UInt16).toNat sdpMaxAttrFilters ≤ filters.length ∧
      sdpMaxAttrFilters ^ 3 + sdpMaxAttrFilters ≤ 4000 ∧
      ∃ sorted, sdpuSortAttrList 4000 3 filters = some sorted ∧
        (sorted.take (min (3 : UInt16).toNat sdpMaxAttrFilters)).Pairwise (· ≤ ·) ∧
        (sorted.take (min (3 : UInt16).toNat sdpMaxAttrFilters)).Perm
          (filters.take (min (3 : UInt16).toNat sdpMaxAttrFilters)) ∧
        sorted.drop (min (3 : UInt16).toNat sdpMaxAttrFilters) =
          filters.drop (min (3 : UInt16).toNat sdpMaxAttrFilters) :=
  ⟨by decide, by decide, sdpu_sort_attr_list_sorts 3 _ (by decide) (by decide)⟩

end Sdp

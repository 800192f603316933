import Mathlib

/-!
# Regions packed into a buffer

A buffer that stores values one after another from offset 0, with a pointer to its first
free byte, and that closes the gap a deleted value leaves by moving every value above it
down. The values' regions are then `Packed`: non-empty, pairwise disjoint, inside
`[0, free)` and of total length `free`, so that they fill the first `free` bytes.

The two laws are `Packed.cons_fresh` (a value stored at `free`) and `Packed.closeGap` (a
value deleted and the gap closed). `Packed` does not see the order of the regions
(`Packed.perm`), so a store that keeps its values in another order (by key, say) uses the
laws through a permutation.
-/

namespace Regions

/-- The bytes `[start, start + len)` of a buffer. -/
structure Region where
  start : Nat
  len : Nat
  deriving DecidableEq, Repr

namespace Region

/-- Two regions share no byte. -/
def Disjoint (a b : Region) : Prop := a.start + a.len ≤ b.start ∨ b.start + b.len ≤ a.start

theorem Disjoint.symm {a b : Region} (h : a.Disjoint b) : b.Disjoint a := Or.symm h

/-- `r` after the gap `d` leaves is closed: moved down by `d.len` if it starts above `d`. -/
def closeGap (d r : Region) : Region :=
  if d.start < r.start then ⟨r.start - d.len, r.len⟩ else r

@[simp] theorem len_closeGap (d r : Region) : (d.closeGap r).len = r.len := by
  unfold closeGap
  split <;> rfl

theorem start_closeGap (d r : Region) :
    (d.closeGap r).start = if d.start < r.start then r.start - d.len else r.start := by
  unfold closeGap
  split <;> rfl

variable {d a b : Region}

/-- A non-empty region disjoint from a non-empty `d` lies wholly below or wholly above it. -/
theorem below_or_above (hd : 0 < d.len) (ha : 0 < a.len) (h : d.Disjoint a) :
    (a.start < d.start ∧ a.start + a.len ≤ d.start) ∨
      (d.start < a.start ∧ d.start + d.len ≤ a.start) := by
  unfold Disjoint at h
  omega

/-- Closing the gap keeps two regions that avoid it disjoint. -/
theorem Disjoint.closeGap (hd : 0 < d.len) (ha : 0 < a.len) (hb : 0 < b.len)
    (hda : d.Disjoint a) (hdb : d.Disjoint b) (h : a.Disjoint b) :
    (d.closeGap a).Disjoint (d.closeGap b) := by
  have pa := below_or_above hd ha hda
  have pb := below_or_above hd hb hdb
  unfold Disjoint at *
  rw [start_closeGap, start_closeGap, len_closeGap, len_closeGap]
  split_ifs <;> omega

end Region

/-- Non-empty, pairwise disjoint regions inside `[0, free)` whose lengths sum to `free`. -/
structure Packed (rs : List Region) (free : Nat) : Prop where
  pos : ∀ r ∈ rs, 0 < r.len
  inside : ∀ r ∈ rs, r.start + r.len ≤ free
  disjoint : rs.Pairwise Region.Disjoint
  sum_len : (rs.map Region.len).sum = free

namespace Packed

variable {rs rs' : List Region} {free : Nat}

theorem nil : Packed [] 0 := ⟨nofun, nofun, .nil, rfl⟩

/-- `Packed` does not see the order of the regions. -/
theorem perm (h : Packed rs free) (p : rs.Perm rs') : Packed rs' free where
  pos r hr := h.pos r (p.mem_iff.2 hr)
  inside r hr := h.inside r (p.mem_iff.2 hr)
  disjoint := h.disjoint.perm p Region.Disjoint.symm
  sum_len := (p.map Region.len).sum_nat ▸ h.sum_len

/-- A non-empty value stored at `free`. -/
theorem cons_fresh (h : Packed rs free) {n : Nat} (hn : 0 < n) :
    Packed (⟨free, n⟩ :: rs) (free + n) where
  pos r hr := by
    rcases List.mem_cons.1 hr with rfl | hr
    · exact hn
    · exact h.pos r hr
  inside r hr := by
    rcases List.mem_cons.1 hr with rfl | hr
    · exact Nat.le_refl _
    · exact Nat.le_add_right_of_le (h.inside r hr)
  disjoint := List.pairwise_cons.2 ⟨fun r hr => .inr (h.inside r hr), h.disjoint⟩
  sum_len := by
    rw [List.map_cons, List.sum_cons, h.sum_len, Nat.add_comm]

/-- The value `d` deleted and the gap it leaves closed. -/
theorem closeGap {d : Region} (h : Packed (d :: rs) free) :
    Packed (rs.map d.closeGap) (free - d.len) := by
  obtain ⟨pos, inside, disjoint, sum_len⟩ := h
  have hd : 0 < d.len := pos d List.mem_cons_self
  have hdin : d.start + d.len ≤ free := inside d List.mem_cons_self
  obtain ⟨away, disjoint⟩ := List.pairwise_cons.1 disjoint
  refine ⟨?_, ?_, ?_, ?_⟩
  · -- lengths do not change
    intro r hr
    obtain ⟨r, mem, rfl⟩ := List.mem_map.1 hr
    rw [Region.len_closeGap]
    exact pos r (List.mem_cons_of_mem d mem)
  · -- what was below `d` stays below it, what was above ends `d.len` lower
    intro r hr
    obtain ⟨r, mem, rfl⟩ := List.mem_map.1 hr
    have mem' := List.mem_cons_of_mem d mem
    have side := Region.below_or_above hd (pos r mem') (away r mem)
    have rin := inside r mem'
    rw [Region.start_closeGap, Region.len_closeGap]
    split_ifs <;> omega
  · refine List.pairwise_map.2 (disjoint.imp_of_mem fun ha hb hab => ?_)
    exact Region.Disjoint.closeGap hd (pos _ (List.mem_cons_of_mem d ha))
      (pos _ (List.mem_cons_of_mem d hb)) (away _ ha) (away _ hb) hab
  · have lens : (rs.map d.closeGap).map Region.len = rs.map Region.len := by
      rw [List.map_map]
      exact List.map_congr_left fun r _ => Region.len_closeGap d r
    rw [lens]
    rw [List.map_cons, List.sum_cons] at sum_len
    omega

end Packed

end Regions

import Mathlib.Algebra.Ring.Nat
import Mathlib.Data.List.Basic

/-!
# Ropes: a sequence held in chunks

A rope is a list of chunks, and what it holds is the concatenation of the chunks' contents
(`cs.flatMap bytes`). Code over a rope rarely builds that concatenation. Instead it walks the
chunks and subtracts each chunk's size from an offset:
* `get` reads one element;
* `slice` cuts a range out of it, chunk by chunk;
* `insertionPoint` finds the chunk where a count of elements runs out;
* `insertAfterEach` puts a second rope's chunks one by one after a chunk.

The lemmas say what each walk computes on the concatenation. They need two facts of a chunk
type: `size c` is the length of `bytes c`, and reading and cutting a chunk agree with its
content.
-/

namespace Rope

variable {κ β : Type} (size : κ → Nat)

/-- Read the element at `i`: skip the chunks it lies past, then read the chunk it falls in. -/
def get (read : κ → Nat → Option β) : List κ → Nat → Option β
  | [], _ => none
  | c :: cs, i => if i < size c then read c i else get read cs (i - size c)

/-- The chunks that hold the `len` elements from `b` on. From the chunk that `b` falls in, each
chunk gives the piece `cut c b n` of its `n` elements from `b`, and `b` is `0` for the rest.
Each piece counts against `len`. -/
def slice (cut : κ → Nat → Nat → κ) : List κ → Nat → Nat → List κ
  | [], _, _ => []
  | c :: cs, b, len =>
    if b ≥ size c then slice cut cs (b - size c) len
    else
      let piece := cut c b (min len (size c - b))
      piece :: slice cut cs 0 (len - size piece)

/-- From chunk `ip` on, with `remaining` elements left to count: the chunk where they run out.
A chunk is dereferenced only while some are left, and is `none` past the last one. -/
def insertionPoint (chunks : List κ) (remaining ip : Nat) : Option Nat :=
  if remaining > 0 then
    match found : chunks[ip]? with
    | none => none
    | some c =>
      let remaining := remaining - size c
      if remaining > 0 then insertionPoint chunks remaining (ip + 1) else some ip
  else some ip
termination_by chunks.length - ip
decreasing_by
  have := (List.getElem?_eq_some_iff.1 found).1
  omega

/-- Insert `added` one chunk after another after chunk `ip`. -/
def insertAfterEach : List κ → Nat → List κ → List κ
  | chunks, _, [] => chunks
  | chunks, ip, a :: added => insertAfterEach (chunks.insertIdx (ip + 1) a) (ip + 1) added

omit size in
theorem insertIdx_eq_take_drop (x : κ) :
    ∀ (l : List κ) (i : Nat), i ≤ l.length → l.insertIdx i x = l.take i ++ x :: l.drop i
  | l, 0, _ => by simp [List.insertIdx_zero]
  | [], _ + 1, h => absurd h (by simp)
  | y :: l, i + 1, h => by
    rw [List.insertIdx_succ_cons, insertIdx_eq_take_drop x l i (by simp at h; omega)]
    simp

omit size in
/-- Inserting after a chunk that exists puts the inserted chunks right after it. -/
theorem insertAfterEach_eq (added : List κ) :
    ∀ (chunks : List κ) (ip : Nat), ip < chunks.length →
      insertAfterEach chunks ip added = chunks.take (ip + 1) ++ added ++ chunks.drop (ip + 1) := by
  induction added with
  | nil =>
    intro chunks ip _
    simp [insertAfterEach]
  | cons a added ih =>
    intro chunks ip inside
    have grown : ip + 1 < (chunks.insertIdx (ip + 1) a).length := by
      rw [List.length_insertIdx_of_le_length (by omega)]
      omega
    rw [insertAfterEach, ih _ _ grown, insertIdx_eq_take_drop _ _ _ (by omega)]
    simp [List.take_append, List.drop_append, List.take_take, List.length_take,
      Nat.min_eq_left (show ip + 1 ≤ chunks.length by omega)]

section Content

variable {size} {bytes : κ → List β} (size_eq : ∀ c, size c = (bytes c).length)
include size_eq

/-- A rope's size is the length of what it holds. -/
theorem sum_map_size (chunks : List κ) : (chunks.map size).sum = (chunks.flatMap bytes).length := by
  induction chunks with
  | nil => rfl
  | cons c cs ih => simp [size_eq c, ih]

/-- `get` reads the concatenation, given a chunk read that reads the chunk's content. -/
theorem get_eq {read : κ → Nat → Option β} (read_eq : ∀ c i, i < size c → read c i = (bytes c)[i]?) :
    ∀ (chunks : List κ) (i : Nat), get size read chunks i = (chunks.flatMap bytes)[i]? := by
  intro chunks
  induction chunks with
  | nil => intro i; rfl
  | cons c cs ih =>
    intro i
    rw [get, List.flatMap_cons, List.getElem?_append, ← size_eq c]
    split_ifs with inside
    · exact read_eq c i inside
    · exact ih (i - size c)

/-- `slice` holds the slice of the concatenation, given a cut that cuts the chunk's content. -/
theorem flatMap_slice {cut : κ → Nat → Nat → κ}
    (cut_eq : ∀ c b n, b + n ≤ size c → bytes (cut c b n) = ((bytes c).drop b).take n) :
    ∀ (chunks : List κ) (b len : Nat),
      (slice size cut chunks b len).flatMap bytes = ((chunks.flatMap bytes).drop b).take len := by
  intro chunks
  induction chunks with
  | nil => intro b len; simp [slice]
  | cons c cs ih =>
    intro b len
    rw [slice, List.flatMap_cons]
    split_ifs with past
    · -- `b` lies past this chunk
      have gone : (bytes c).drop b = [] := List.drop_eq_nil_of_le (by rw [← size_eq]; exact past)
      rw [ih, List.drop_append, gone, List.nil_append, size_eq]
    · -- the piece of this chunk, then the rest from `0`
      have piece : bytes (cut c b (min len (size c - b))) = ((bytes c).drop b).take len := by
        rw [cut_eq c b _ (by omega)]
        rw [List.take_eq_take_iff]
        simp [← size_eq c]
      have piece_size : size (cut c b (min len (size c - b))) = min len (size c - b) := by
        rw [size_eq, piece]
        simp [← size_eq c]
      rw [List.flatMap_cons, piece, piece_size, ih, List.drop_zero, List.drop_append,
        List.take_append, List.length_drop, ← size_eq c, Nat.sub_eq_zero_of_le (by omega : b ≤ size c),
        List.drop_zero, show len - min len (size c - b) = len - (size c - b) by omega]

/-- Inserting after a chunk past which every chunk is empty appends what the inserted chunks
hold. -/
theorem flatMap_insertAfterEach {chunks : List κ} {ip : Nat} (inside : ip < chunks.length)
    (empty : ((chunks.drop (ip + 1)).map size).sum = 0) (added : List κ) :
    (insertAfterEach chunks ip added).flatMap bytes = chunks.flatMap bytes ++ added.flatMap bytes := by
  have none_after : (chunks.drop (ip + 1)).flatMap bytes = [] := by
    rw [← List.length_eq_zero_iff, ← sum_map_size size_eq, empty]
  rw [insertAfterEach_eq added chunks ip inside]
  conv => rhs; rw [← List.take_append_drop (ip + 1) chunks]
  simp only [List.flatMap_append, none_after, List.append_nil]

end Content

section InsertionPoint

variable {chunks : List κ} {remaining ip : Nat}

theorem insertionPoint_of_zero (zero : remaining = 0) :
    insertionPoint size chunks remaining ip = some ip := by
  rw [insertionPoint, if_neg (by omega)]

theorem insertionPoint_of_last {c : κ} (found : chunks[ip]? = some c) (last : remaining ≤ size c)
    (more : 0 < remaining) :
    insertionPoint size chunks remaining ip = some ip := by
  rw [insertionPoint, if_pos more]
  split
  · simp_all
  · rename_i c' found'
    obtain rfl : c = c' := Option.some.inj (found.symm.trans found')
    rw [if_neg (by omega)]

theorem insertionPoint_of_more {c : κ} (found : chunks[ip]? = some c) (more : size c < remaining) :
    insertionPoint size chunks remaining ip = insertionPoint size chunks (remaining - size c) (ip + 1) := by
  rw [insertionPoint, if_pos (by omega)]
  split
  · simp_all
  · rename_i c' found'
    obtain rfl : c = c' := Option.some.inj (found.symm.trans found')
    rw [if_pos (by omega)]

/-- The chunks from `ip` on hold the chunk at `ip` and those after it. -/
theorem sum_drop_eq {c : κ} (found : chunks[ip]? = some c) :
    ((chunks.drop ip).map size).sum = size c + ((chunks.drop (ip + 1)).map size).sum := by
  obtain ⟨inside, rfl⟩ := List.getElem?_eq_some_iff.1 found
  rw [List.drop_eq_getElem_cons inside, List.map_cons, List.sum_cons]

/-- Counting, from a chunk `ip`, the elements it and the chunks after it hold stops at a chunk
`j ≥ ip` after which every chunk is empty. The induction follows `insertionPoint`'s recursion;
`remaining` is always what the chunks from `ip` on hold. -/
theorem insertionPoint_spec (counted : remaining = ((chunks.drop ip).map size).sum)
    (inside : ip < chunks.length) :
    ∃ j, insertionPoint size chunks remaining ip = some j ∧ ip ≤ j ∧ j < chunks.length ∧
      ((chunks.drop (j + 1)).map size).sum = 0 := by
  induction remaining, ip using insertionPoint.induct size chunks with
  | case1 remaining ip _ missing =>
    -- there is a chunk at `ip`
    rw [List.getElem?_eq_none_iff] at missing
    omega
  | case2 remaining ip more c found rest pos ih =>
    have rest_eq : rest = remaining - size c := rfl
    clear_value rest
    have split := sum_drop_eq size found
    have next : ip + 1 < chunks.length := by
      by_contra past
      have gone : chunks.drop (ip + 1) = [] := List.drop_eq_nil_of_le (by omega)
      rw [gone] at split
      simp only [List.map_nil, List.sum_nil] at split
      omega
    obtain ⟨j, run, after, lt, empty⟩ := ih (by omega) next
    refine ⟨j, ?_, by omega, lt, empty⟩
    rw [insertionPoint_of_more size found (by omega), ← rest_eq]
    exact run
  | case3 remaining ip more c found rest last =>
    have rest_eq : rest = remaining - size c := rfl
    clear_value rest
    have split := sum_drop_eq size found
    exact ⟨ip, insertionPoint_of_last size found (by omega) more, Nat.le_refl _, inside, by omega⟩
  | case4 remaining ip zero =>
    have split := sum_drop_eq size (List.getElem?_eq_getElem inside)
    exact ⟨ip, insertionPoint_of_zero size (by omega), Nat.le_refl _, inside, by omega⟩

end InsertionPoint

end Rope

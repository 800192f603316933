import Fluoride.Packet.PacketView

/-!
# What a packet view reads

A packet view stands for one byte list: its fragments' bytes, one after the other (`content`).
The operations of `packet_view.cc` and `iterator.h` walk the fragments. This module shows that
each walk does to the fragments what its list operation does to `content`. The proofs rest on
the `Rope` lemmas, and on three facts of a single view: its `size()` is the number of bytes it
shows, `operator[]` reads them, and `View(view, begin, end)` cuts them.

* `getSubviewList_content`: `GetSubviewList(begin, end)` holds `content`'s bytes
  `[begin, end)`.
* `append_content`: `Append` on a packet with a fragment concatenates the contents.
* `at_eq`, `deref_begin_add`: `at(i)` and `*(begin() + i)` read `content[i]`. The second holds
  only while `i` fits in the `int` that `operator+` takes.
* `extract_ofViews`: `extract` at `i` reads `content[i, i + n)`, in either byte order, when
  those bytes exist. Otherwise it aborts (`extract_past_end`).
-/

namespace Packet

namespace View

theorem length_bytes (v : View) : v.bytes.length = v.size := by
  have := v.end_le
  simp only [bytes, size, List.length_take, List.length_drop]
  omega

theorem get_eq (v : View) {i : Nat} (inside : i < v.size) : v.get i = v.bytes[i]? := by
  have lt : i + v.begin < v.end_ := by simp only [size] at inside; omega
  rw [get, if_pos lt, bytes, List.getElem?_take_of_lt inside, List.getElem?_drop, Nat.add_comm]

/-- `View(view, begin, begin + n)` shows `n` of `view`'s bytes from `begin`, when they exist. -/
theorem bytes_sub (v : View) {b n : Nat} (fits : b + n ≤ v.size) (ordered : b ≤ b + n) :
    (v.sub b (b + n) ordered).bytes = (v.bytes.drop b).take n := by
  -- both ends lie inside `view`, so neither is clamped
  have clamp : ∀ k, k ≤ v.size → (if k < v.size then k else v.size) = k := by
    intro k le
    split_ifs <;> omega
  simp only [sub, clamp b (by omega), clamp (b + n) fits]
  simp only [bytes, size] at fits ⊢
  rw [List.drop_take, List.drop_drop, List.take_take, Nat.add_comm v.begin b]
  congr 1
  omega

end View

namespace PacketView

variable {littleEndian : Bool}

/-- The bytes a packet view holds: its fragments' bytes, one after the other. -/
def content (p : PacketView littleEndian) : List UInt8 := p.fragments.flatMap View.bytes

theorem bytes_subviewOf (v : View) {b n : Nat} (fits : b + n ≤ v.size) :
    (subviewOf v b n).bytes = (v.bytes.drop b).take n :=
  v.bytes_sub fits _

theorem sum_map_size (fragments : List View) :
    (fragments.map View.size).sum = (fragments.flatMap View.bytes).length :=
  Rope.sum_map_size (fun v => (View.length_bytes v).symm) fragments

/-- Reading by walking the fragments reads the concatenation. -/
theorem get_fragments (fragments : List View) (i : Nat) :
    Rope.get View.size View.get fragments i = (fragments.flatMap View.bytes)[i]? :=
  Rope.get_eq (fun v => (View.length_bytes v).symm) (fun v _ inside => v.get_eq inside) fragments i

/-- `size()` is the number of bytes the packet view holds. -/
theorem size_eq_length (p : PacketView littleEndian) : p.size = p.content.length :=
  p.length_eq.trans (sum_map_size p.fragments)

/-! ## `at` and `operator*` -/

/-- `at(i)` reads byte `i`. -/
theorem at_eq (p : PacketView littleEndian) {i : Nat} (inside : i < p.size) : p.at i = p.content[i]? := by
  rw [PacketView.at, if_pos (show i < p.length from inside), get_fragments]
  rfl

/-- `begin() + i` is the iterator at `i`, while `i` fits in an `int`. -/
theorem begin_add (p : PacketView littleEndian) {i : Nat} (small : i < 2 ^ 31) :
    p.begin.add (Int32.ofNat i) = Iterator.ofViews p.fragments i := by
  have index : (((0 : Nat) + (Int32.ofNat i).toInt) % 2 ^ 64).toNat = i := by
    rw [Int32.toInt_ofNat_of_lt small, Int.emod_eq_of_lt (by omega) (by omega)]
    omega
  simp only [begin, Iterator.add, Iterator.ofViews, index]

/-- From `2^31` on, `i` converted to an `int` is negative, and `begin() + i` lies `2^32` before
`i` modulo `2^64`: past the end of any packet view of at most `2^63` bytes. -/
theorem deref_begin_add_of_wrap (p : PacketView littleEndian) {i : Nat} (big : 2 ^ 31 ≤ i)
    (small : i < 2 ^ 32) (bounded : p.size ≤ 2 ^ 63) :
    (p.begin.add (Int32.ofNat i)).deref = none := by
  have wrapped : (Int32.ofNat i).toInt = i - 2 ^ 32 := by
    rw [Int32.toInt_ofNat', Int.bmod_def]
    simp only [Int32.size]
    rw [Int.emod_eq_of_lt (by omega) (by omega), if_neg (by omega)]
    rfl
  have index : (((0 : Nat) + (Int32.ofNat i).toInt) % 2 ^ 64).toNat = 2 ^ 64 - 2 ^ 32 + i := by
    rw [wrapped, ← Int.add_mul_emod_self_right _ 1, Int.emod_eq_of_lt (by omega) (by omega)]
    omega
  have sized : (p.fragments.map View.size).sum ≤ 2 ^ 63 := p.length_eq ▸ bounded
  have remaining : (p.begin.add (Int32.ofNat i)).numBytesRemaining = 0 := by
    simp only [begin, Iterator.add, Iterator.ofViews, Iterator.numBytesRemaining, index]
    rw [if_neg (by omega)]
  rw [Iterator.deref, remaining, if_neg (Nat.lt_irrefl 0)]

/-! ## `GetSubviewList` and `Append` -/

/-- `GetSubviewList(begin, end)` holds the bytes `[begin, end)`. -/
theorem getSubviewList_content (p : PacketView littleEndian) {b e : Nat} (ordered : b ≤ e)
    (inside : e ≤ p.size) :
    ∃ l, p.getSubviewList b e = some l ∧ l.flatMap View.bytes = (p.content.drop b).take (e - b) ∧
      (l.map View.size).sum = e - b := by
  have cut := Rope.flatMap_slice (fun v => (View.length_bytes v).symm)
    (fun v _ _ fits => bytes_subviewOf v fits) p.fragments b (e - b)
  have total : (p.fragments.flatMap View.bytes).length = p.size := (size_eq_length p).symm
  refine ⟨_, by rw [getSubviewList, if_pos ⟨ordered, inside⟩], cut, ?_⟩
  rw [sum_map_size, cut, List.length_take, List.length_drop, total]
  omega

/-- `Append(to_add)` on a packet view with a fragment adds the sizes and concatenates the
bytes. `length_` counts down to the fragment holding the last byte: every fragment after it is
empty, so the appended fragments follow every byte. -/
theorem append_content (p q : PacketView littleEndian) (nonempty : p.fragments ≠ []) :
    ∃ r, p.append q = some r ∧ r.size = p.size + q.size ∧ r.content = p.content ++ q.content := by
  have counted : p.length = ((p.fragments.drop 0).map View.size).sum := by
    rw [List.drop_zero, p.length_eq]
  obtain ⟨j, run, _, inside, empty⟩ := Rope.insertionPoint_spec View.size counted
    (List.length_pos_iff.2 nonempty)
  simp only [append, run, dif_pos inside]
  refine ⟨_, rfl, rfl, ?_⟩
  exact Rope.flatMap_insertAfterEach (fun v => (View.length_bytes v).symm) inside empty q.fragments

end PacketView

namespace Iterator

variable {littleEndian : Bool}

@[simp] theorem index_ofViews (data : List View) (i : Nat) :
    (ofViews data i : Iterator littleEndian).index = i := rfl

@[simp] theorem incr_ofViews (data : List View) (i : Nat) :
    (ofViews data i : Iterator littleEndian).incr = ofViews data (i + 1) := rfl

/-- An iterator over fragments reads byte `i` of their concatenation, when there is one. -/
theorem deref_ofViews (data : List View) {i : Nat} (inside : i < (data.flatMap View.bytes).length) :
    (ofViews data i : Iterator littleEndian).deref = (data.flatMap View.bytes)[i]? := by
  have remaining : (ofViews data i : Iterator littleEndian).numBytesRemaining > 0 := by
    simp only [numBytesRemaining, ofViews, PacketView.sum_map_size]
    rw [if_pos ⟨inside, Nat.zero_le _⟩]
    omega
  rw [deref, if_pos remaining]
  exact PacketView.get_fragments data i

/-- One byte of `extract`, read at the iterator. -/
theorem extractLoop_of_deref {n i : Nat} {value : List UInt8} {it : Iterator littleEndian} {byte : UInt8}
    (more : i < n) (read : it.deref = some byte) :
    extractLoop n i value it =
      extractLoop n (i + 1) (value.set (if littleEndian then i else n - i - 1) byte) it.incr := by
  rw [extractLoop, if_pos more]
  simp only [read]

theorem extractLoop_of_done {n i : Nat} {value : List UInt8} {it : Iterator littleEndian}
    (done : ¬ i < n) : extractLoop n i value it = some (value, it) := by
  rw [extractLoop, if_neg done]

theorem extractLoop_of_abort {n i : Nat} {value : List UInt8} {it : Iterator littleEndian}
    (more : i < n) (abort : it.deref = none) : extractLoop n i value it = none := by
  rw [extractLoop, if_pos more]
  simp only [abort]

/-- Setting entry `i` and keeping `i + 1` entries keeps the first `i` and the new one. -/
theorem take_succ_set {l : List UInt8} {i : Nat} (inside : i < l.length) (b : UInt8) :
    (l.set i b).take (i + 1) = l.take i ++ [b] := by
  rw [List.set_eq_take_append_cons_drop, if_pos inside, List.take_append]
  simp [Nat.min_eq_left (Nat.le_of_lt inside)]

/-- Setting entry `k` and dropping `k` entries leaves the new one and the rest. -/
theorem drop_set_self {l : List UInt8} {k : Nat} (inside : k < l.length) (b : UInt8) :
    (l.set k b).drop k = b :: l.drop (k + 1) := by
  rw [List.set_eq_take_append_cons_drop, if_pos inside, List.drop_append]
  simp [Nat.min_eq_left (Nat.le_of_lt inside)]

/-- Byte `j` and the `m` after it. -/
theorem take_succ_drop {l : List UInt8} {j : Nat} (inside : j < l.length) (m : Nat) :
    (l.drop j).take (m + 1) = l[j] :: (l.drop (j + 1)).take m := by
  rw [List.drop_eq_getElem_cons inside, List.take_succ_cons]

/-- **The loop of `extract`.** With `k` bytes left to read, the iterator at `j`, and `k` bytes
there, the loop reads them. A little-endian view keeps the first `i` entries of `value` and puts
the bytes after them. A big-endian one puts them reversed before the last `n - k`. The induction
is on `k`, one byte a step. -/
theorem extractLoop_ofViews (data : List View) (n : Nat) :
    ∀ (k i : Nat) (value : List UInt8) (j : Nat), i + k = n → value.length = n →
      j + k ≤ (data.flatMap View.bytes).length →
      extractLoop n i value (ofViews data j : Iterator littleEndian) =
        some (if littleEndian then value.take i ++ ((data.flatMap View.bytes).drop j).take k
          else (((data.flatMap View.bytes).drop j).take k).reverse ++ value.drop k,
          ofViews data (j + k)) := by
  intro k
  induction k with
  | zero =>
    intro i value j ends sized _
    have all : value.length = i := by omega
    rw [extractLoop_of_done (by omega)]
    cases littleEndian <;> simp [all]
  | succ k ih =>
    intro i value j ends sized fits
    have inside : j < (data.flatMap View.bytes).length := by omega
    have read : (ofViews data j : Iterator littleEndian).deref = some (data.flatMap View.bytes)[j] := by
      rw [deref_ofViews data inside, List.getElem?_eq_getElem inside]
    rw [extractLoop_of_deref (by omega) read, incr_ofViews,
      ih (i + 1) _ (j + 1) (by omega) (by simp [sized]) (by omega),
      take_succ_drop inside, show j + 1 + k = j + (k + 1) by omega]
    cases littleEndian
    · -- big endian: byte `i` goes to entry `n - i - 1 = k`
      simp only [Bool.false_eq_true, if_false, show n - i - 1 = k by omega,
        drop_set_self (show k < value.length by omega), List.reverse_cons, List.append_assoc,
        List.singleton_append]
    · -- little endian: byte `i` goes to entry `i`
      simp only [if_true, take_succ_set (show i < value.length by omega), List.append_assoc,
        List.singleton_append]

end Iterator

namespace PacketView

variable {littleEndian : Bool}

/-- `extract` at `i` reads `n` bytes from `i` in the view's byte order, when they exist, and
moves the iterator past them. -/
theorem extract_ofViews (p : PacketView littleEndian) {i n : Nat} (fits : i + n ≤ p.size) :
    (Iterator.ofViews p.fragments i : Iterator littleEndian).extract n =
      some (if littleEndian then (p.content.drop i).take n else ((p.content.drop i).take n).reverse,
        Iterator.ofViews p.fragments (i + n)) := by
  rw [Iterator.extract, Iterator.extractLoop_ofViews p.fragments n n 0 _ i (Nat.zero_add n)
    List.length_replicate ((size_eq_length p) ▸ fits)]
  simp [content]

end PacketView

/-- **A packet view reads its content.** Whatever its fragments, a packet view behaves as its
content:
* a subview of `[begin, end)` holds those bytes;
* `Append` on a packet view with a fragment concatenates the contents;
* `at(i)` reads byte `i`, and so does `*(begin() + i)` while `i < 2^31`;
* `extract` of `n` bytes at `i` reads `[i, i + n)` in the view's byte order when `i + n` is at
  most the size. -/
theorem packet_view_reads_content {littleEndian : Bool} (p : PacketView littleEndian) :
    (∀ b e : Nat, b ≤ e → e ≤ p.size → ∃ l, p.getSubviewList b e = some l ∧
      ∀ subEndian : Bool, (PacketView.ofFragments l : PacketView subEndian).size = e - b ∧
        (PacketView.ofFragments l : PacketView subEndian).content = (p.content.drop b).take (e - b)) ∧
    (∀ q : PacketView littleEndian, p.fragments ≠ [] →
      ∃ r, p.append q = some r ∧ r.size = p.size + q.size ∧ r.content = p.content ++ q.content) ∧
    (∀ i < p.size, p.at i = p.content[i]? ∧
      (i < 2 ^ 31 → (p.begin.add (Int32.ofNat i)).deref = p.content[i]?)) ∧
    ∀ i n : Nat, i + n ≤ p.size →
      (Iterator.ofViews p.fragments i : Iterator littleEndian).extract n =
        some (if littleEndian then (p.content.drop i).take n else ((p.content.drop i).take n).reverse,
          Iterator.ofViews p.fragments (i + n)) := by
  refine ⟨?subview, fun q nonempty => p.append_content q nonempty, ?read, fun i n fits => p.extract_ofViews fits⟩
  case subview =>
    intro b e ordered inside
    obtain ⟨l, cut, bytes, sized⟩ := p.getSubviewList_content ordered inside
    exact ⟨l, cut, fun _ => ⟨sized, bytes⟩⟩
  case read =>
    intro i inside
    refine ⟨p.at_eq inside, fun small => ?_⟩
    rw [p.begin_add small, Iterator.deref_ofViews p.fragments (p.size_eq_length ▸ inside)]
    rfl

/-- Two fragments, read big-endian across their boundary. -/
theorem packet_view_reads_content_across_fragments :
    let p : PacketView false :=
      PacketView.ofFragments [View.ofData [1, 2, 3] 0 3 (by decide), View.ofData [4, 5] 0 2 (by decide)]
    2 + 2 ≤ p.size ∧
      (Iterator.ofViews p.fragments 2 : Iterator false).extract 2 = some ([4, 3], Iterator.ofViews p.fragments 4) := by
  intro p
  have fits : 2 + 2 ≤ p.size := by decide
  exact ⟨fits, (packet_view_reads_content p).2.2.2 2 2 fits⟩

/-- `extract` of two bytes at the last byte of a packet view aborts: its second `operator*`
finds no byte left. -/
theorem extract_past_end :
    let p : PacketView true := PacketView.ofPacket [0x12]
    0 < p.size ∧ p.begin.extract 2 = none := by
  intro p
  have first : p.begin.deref = some 0x12 := by decide
  have second : p.begin.incr.deref = none := by decide
  refine ⟨by decide, ?_⟩
  rw [Iterator.extract, Iterator.extractLoop_of_deref (by decide) first,
    Iterator.extractLoop_of_abort (by decide) second]

end Packet

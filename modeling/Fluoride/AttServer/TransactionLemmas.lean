import Mathlib.Algebra.Order.BigOperators.Group.List
import Mathlib.Algebra.Order.Group.Nat
import Fluoride.Lib.Budget
import Fluoride.AttServer.Transactions

/-!
# What the read transactions answer

Over a database whose `list_attributes` is in strictly increasing handle order:

* the payload accumulator keeps the longest prefix of its elements within its limit
  (`elems_new_pushUntilFull`);
* `filter_to_range` is the filter of the attributes by the range (`filterToRange_eq_filter`);
* `filter_read_attributes_by_size_type` returns the attributes of the type, read in order up to
  the first failed read and the first change of size (`SameSizeRun`), or the error of a first
  read that fails (`filterReadAttributesBySizeType_ok`, `filterReadAttributesBySizeType_error`).

From these, each handler's packet lists handles of the range in increasing order, within the
MTU. The `_elementsize_` field of the two read-by-type responses holds one byte, while the
values are cut to `mtu - 4` and `mtu - 6` only, so past an MTU of 257 a long value has no
encoding (`read_by_type_value_past_element_size`).
-/

namespace AttServer

/-! ## The payload accumulator -/

namespace PayloadAccumulator

variable {α : Type} [Packet α]

theorem sum_le_lim (acc : PayloadAccumulator α) : (acc.elems.map encodedLen).sum ≤ acc.lim :=
  acc.curr_eq ▸ acc.curr_le

theorem push_of_le {acc : PayloadAccumulator α} {b : α} (fits : encodedLen b ≤ acc.lim - acc.curr) :
    ∃ acc', acc.push b = (true, acc') ∧ acc'.elems = acc.elems ++ [b] ∧ acc'.lim = acc.lim ∧
      acc'.curr = acc.curr + encodedLen b := by
  have room := acc.curr_le
  unfold push
  rw [dif_neg (by omega)]
  exact ⟨_, rfl, rfl, rfl, rfl⟩

theorem push_of_lt {acc : PayloadAccumulator α} {b : α} (tooBig : acc.lim - acc.curr < encodedLen b) :
    acc.push b = (false, acc) := by
  have room := acc.curr_le
  unfold push
  rw [dif_pos (by omega)]

/-- **The accumulator's loop keeps the longest prefix within the room left.** -/
theorem elems_pushUntilFull (acc : PayloadAccumulator α) (l : List α) :
    (acc.pushUntilFull l).elems = acc.elems ++ l.takeWithin encodedLen (acc.lim - acc.curr) := by
  induction l generalizing acc with
  | nil => simp [pushUntilFull]
  | cons b bs ih =>
    by_cases fits : encodedLen b ≤ acc.lim - acc.curr
    · obtain ⟨acc', pushed, elems, lim, curr⟩ := push_of_le fits
      rw [List.takeWithin_cons_of_le bs fits, pushUntilFull, pushed]
      dsimp only
      rw [ih, elems, lim, curr, List.append_assoc, List.singleton_append, Nat.sub_add_eq]
    · rw [List.takeWithin_cons_of_lt bs (Nat.lt_of_not_le fits), pushUntilFull,
        push_of_lt (Nat.lt_of_not_le fits)]
      simp

theorem elems_new_pushUntilFull (lim : Nat) (l : List α) :
    ((new lim : PayloadAccumulator α).pushUntilFull l).elems = l.takeWithin encodedLen lim := by
  rw [elems_pushUntilFull]
  rfl

end PayloadAccumulator

/-! ## The range filter -/

/-- Handles in strictly increasing order. -/
def Sorted (attrs : List AttAttribute) : Prop := attrs.Pairwise fun a b => a.handle < b.handle

variable {attrs : List AttAttribute}

theorem dropWhile_lt_eq_filter (sorted : Sorted attrs) (start : UInt16) :
    attrs.dropWhile (fun attr => attr.handle < start) =
      attrs.filter fun attr => start ≤ attr.handle := by
  induction attrs with
  | nil => rfl
  | cons a rest ih =>
    obtain ⟨above, sortedRest⟩ := List.pairwise_cons.1 sorted
    by_cases low : a.handle < start
    · rw [List.dropWhile_cons_of_pos (by simpa using low), ih sortedRest,
        List.filter_cons_of_neg (by simpa using low)]
    · -- from here on every handle is past the start
      rw [List.dropWhile_cons_of_neg (by simpa using low),
        List.filter_cons_of_pos (by simpa using low)]
      refine congrArg _ (List.filter_eq_self.2 fun b hb => ?_).symm
      have above := UInt16.lt_iff_toNat_lt.1 (above b hb)
      have low := UInt16.lt_iff_toNat_lt.not.1 low
      simp only [decide_eq_true_eq, UInt16.le_iff_toNat_le]
      omega

theorem takeWhile_le_eq_filter (sorted : Sorted attrs) (stop : UInt16) :
    attrs.takeWhile (fun attr => attr.handle ≤ stop) =
      attrs.filter fun attr => attr.handle ≤ stop := by
  induction attrs with
  | nil => rfl
  | cons a rest ih =>
    obtain ⟨above, sortedRest⟩ := List.pairwise_cons.1 sorted
    by_cases within : a.handle ≤ stop
    · rw [List.takeWhile_cons_of_pos (by simpa using within), ih sortedRest,
        List.filter_cons_of_pos (by simpa using within)]
    · -- from here on every handle is past the end
      rw [List.takeWhile_cons_of_neg (by simpa using within),
        List.filter_cons_of_neg (by simpa using within)]
      refine (List.filter_eq_nil_iff.2 fun b hb => ?_).symm
      have above := UInt16.lt_iff_toNat_lt.1 (above b hb)
      have within := UInt16.le_iff_toNat_le.not.1 within
      simp only [decide_eq_true_eq, UInt16.le_iff_toNat_le]
      omega

/-- **On a sorted list, `filter_to_range` is the filter by the range.** -/
theorem filterToRange_eq_filter (sorted : Sorted attrs) {start stop : UInt16}
    (valid : ¬(start = 0 ∨ stop < start)) :
    filterToRange start stop attrs =
      some (attrs.filter fun attr => start ≤ attr.handle ∧ attr.handle ≤ stop) := by
  rw [filterToRange, if_neg valid, dropWhile_lt_eq_filter sorted,
    takeWhile_le_eq_filter (sorted.filter _), List.filter_filter]
  congr 2
  funext attr
  simp [Bool.and_comm]

theorem filterToRange_eq_none_iff {start stop : UInt16} :
    filterToRange start stop attrs = none ↔ start = 0 ∨ stop < start := by
  unfold filterToRange
  split <;> simp_all

/-! ## The filter by type and size -/

/-- The attributes of `l`, read and cut to `sizeLimit`, up to the first failed read and the
first value whose size differs from the others'. -/
structure SameSizeRun (db : AttDatabase) (sizeLimit : Nat) (l : List AttAttribute)
    (run : List AttributeWithValue) : Prop where
  isPrefix : run.map AttributeWithValue.attr <+: l
  read : ∀ x ∈ run, ∃ v, db.readAttribute x.attr.handle = .ok v ∧ x.value = v.take sizeLimit
  sameSize : ∀ x ∈ run, ∀ y ∈ run, x.value.length = y.value.length
  stops : ∀ a ∈ (l.drop run.length).head?, run ≠ [] ∧
    ∀ v, db.readAttribute a.handle = .ok v → ∀ x ∈ run, (v.take sizeLimit).length ≠ x.value.length

/-- The loop's state: no element and no size yet, or elements of the one size recorded. -/
def RunState (currElemSize : Option Nat) (out : List AttributeWithValue) : Prop :=
  (currElemSize = none ∧ out = []) ∨
    ∃ n, currElemSize = some n ∧ out ≠ [] ∧ ∀ x ∈ out, x.value.length = n

variable {db : AttDatabase} {sizeLimit : Nat}

theorem runState_push {currElemSize : Option Nat} {out : List AttributeWithValue}
    (state : RunState currElemSize out) {x : AttributeWithValue}
    (fits : ∀ n, currElemSize = some n → x.value.length = n) :
    RunState (some x.value.length) (out ++ [x]) := by
  refine .inr ⟨_, rfl, by simp, fun y hy => ?_⟩
  rcases List.mem_append.1 hy with old | new
  · rcases state with ⟨-, rfl⟩ | ⟨n, rfl, -, sized⟩
    · cases old
    · rw [sized y old, fits n rfl]
  · rw [List.mem_singleton.1 new]

theorem RunState.sameSize {currElemSize : Option Nat} {out : List AttributeWithValue}
    (state : RunState currElemSize out) :
    ∀ x ∈ out, ∀ y ∈ out, x.value.length = y.value.length := by
  intro x hx y hy
  rcases state with ⟨-, rfl⟩ | ⟨n, -, -, sized⟩
  · cases hx
  · rw [sized x hx, sized y hy]

theorem RunState.ne_nil {n : Nat} {out : List AttributeWithValue}
    (state : RunState (some n) out) : out ≠ [] := by
  rcases state with ⟨nope, -⟩ | ⟨m, -, nonempty, -⟩
  · cases nope
  · exact nonempty

/-- What the loop adds to `out` over `l` when it ends with `res`: a prefix of `l`, read, and of
one size with what it had, up to an attribute that fails to read or has another size. -/
def LoopOutcome (db : AttDatabase) (sizeLimit : Nat) (out : List AttributeWithValue)
    (l : List AttAttribute) (res : List AttributeWithValue) : Prop :=
  ∃ added, res = out ++ added ∧ added.map AttributeWithValue.attr <+: l ∧
    (∀ x ∈ added, ∃ v, db.readAttribute x.attr.handle = .ok v ∧ x.value = v.take sizeLimit) ∧
    (∀ x ∈ res, ∀ y ∈ res, x.value.length = y.value.length) ∧
    ∀ a ∈ (l.drop added.length).head?, res ≠ [] ∧
      ∀ v, db.readAttribute a.handle = .ok v →
        ∀ x ∈ res, (v.take sizeLimit).length ≠ x.value.length

/-- The loop stops before `a`, adding nothing, once it has an element and `a` fails to read or
reads to another size. -/
theorem LoopOutcome.stop {currElemSize : Option Nat} {out : List AttributeWithValue}
    {a : AttAttribute} (state : RunState currElemSize out) (nonempty : out ≠ [])
    (differs : ∀ v, db.readAttribute a.handle = .ok v →
      ∀ x ∈ out, (v.take sizeLimit).length ≠ x.value.length) (rest : List AttAttribute) :
    LoopOutcome db sizeLimit out (a :: rest) out := by
  refine ⟨[], by simp, List.nil_prefix, by simp, state.sameSize, fun b hb => ?_⟩
  rw [List.length_nil, List.drop_zero, List.head?_cons, Option.mem_some_iff] at hb
  subst hb
  exact ⟨nonempty, differs⟩

/-- The loop takes `a` with the value read, and goes on over the rest. -/
theorem LoopOutcome.take {out res : List AttributeWithValue} {a : AttAttribute}
    {rest : List AttAttribute} {v : List UInt8} (read : db.readAttribute a.handle = .ok v)
    (after : LoopOutcome db sizeLimit (out ++ [⟨a, v.take sizeLimit⟩]) rest res) :
    LoopOutcome db sizeLimit out (a :: rest) res := by
  obtain ⟨added, rfl, isPrefix, reads, sameSize, stops⟩ := after
  refine ⟨⟨a, v.take sizeLimit⟩ :: added, by simp, List.cons_prefix_cons.2 ⟨rfl, isPrefix⟩,
    fun x hx => ?_, sameSize, stops⟩
  rcases List.mem_cons.1 hx with rfl | later
  · exact ⟨v, read, rfl⟩
  · exact reads x later

/-- What the loop adds: a prefix of its attributes, read and of one size with what it had, up
to an attribute that fails to read or has another size. -/
theorem filterReadLoop_ok {currElemSize : Option Nat} {out res : List AttributeWithValue}
    {l : List AttAttribute} (state : RunState currElemSize out)
    (h : filterReadLoop db sizeLimit currElemSize out l = .ok res) :
    LoopOutcome db sizeLimit out l res := by
  induction l generalizing currElemSize out with
  | nil =>
    cases h
    exact ⟨[], by simp, List.nil_prefix, by simp, state.sameSize, by simp⟩
  | cons a rest ih =>
    unfold filterReadLoop at h
    split at h
    · next v read =>
      dsimp only at h
      split at h
      · next n =>
        split at h
        · next differs =>
          -- `a` reads to another size than the elements taken
          cases h
          refine LoopOutcome.stop state state.ne_nil (fun v' read' x hx => ?_) rest
          rw [read] at read'
          cases read'
          rcases state with ⟨nope, -⟩ | ⟨m, same, -, sized⟩
          · cases nope
          · cases same
            rw [sized x hx]
            exact Ne.symm differs
        · next same =>
          refine LoopOutcome.take read (ih (runState_push state fun m hm => ?_) ?_)
          · cases hm
            exact (not_not.1 same).symm
          · rw [not_not.1 same] at h
            exact h
      · exact LoopOutcome.take read (ih (runState_push state fun m hm => by cases hm) h)
    · next err read =>
      -- a failed read ends the loop, with an error if nothing was taken yet
      split at h
      · cases h
      · next nonempty =>
        cases h
        refine LoopOutcome.stop state (fun empty => nonempty (by simp [empty]))
          (fun v read' => ?_) rest
        rw [read] at read'
        cases read'

/-- The loop fails only with nothing taken, on the error of its next read. -/
theorem filterReadLoop_error {currElemSize : Option Nat} {out : List AttributeWithValue}
    {l : List AttAttribute} {err : AttErrorCode} (state : RunState currElemSize out)
    (h : filterReadLoop db sizeLimit currElemSize out l = .error err) :
    out = [] ∧ ∃ a ∈ l.head?, db.readAttribute a.handle = .error err := by
  induction l generalizing currElemSize out with
  | nil => cases h
  | cons a rest ih =>
    unfold filterReadLoop at h
    split at h
    · next v read =>
      dsimp only at h
      -- after a read the loop holds an element, and cannot fail any more
      split at h
      · split at h
        · cases h
        · next same =>
          have state' := runState_push state (x := ⟨a, v.take sizeLimit⟩) fun m hm => by
            cases hm
            exact (not_not.1 same).symm
          rw [not_not.1 same] at h
          exact absurd (ih state' h).1 (by simp)
      · have state' := runState_push state (x := ⟨a, v.take sizeLimit⟩) fun m hm => by cases hm
        exact absurd (ih state' h).1 (by simp)
    · next e read =>
      split at h
      · next empty =>
        cases h
        exact ⟨List.isEmpty_iff.1 empty, a, rfl, read⟩
      · cases h

/-- **`filter_read_attributes_by_size_type` returns the run of the attributes of its type.** -/
theorem filterReadAttributesBySizeType_ok {target : Uuid} {run : List AttributeWithValue}
    (h : filterReadAttributesBySizeType db attrs target sizeLimit = .ok run) :
    SameSizeRun db sizeLimit (attrs.filter fun attr => attr.type = target) run := by
  obtain ⟨added, same, isPrefix, reads, sameSize, stops⟩ := filterReadLoop_ok (.inl ⟨rfl, rfl⟩) h
  rw [List.nil_append] at same
  subst same
  exact ⟨isPrefix, reads, sameSize, stops⟩

/-- It fails exactly when the first attribute of its type fails to read. -/
theorem filterReadAttributesBySizeType_error {target : Uuid} {err : AttErrorCode} :
    filterReadAttributesBySizeType db attrs target sizeLimit = .error err ↔
      ∃ a ∈ (attrs.filter fun attr => attr.type = target).head?,
        db.readAttribute a.handle = .error err := by
  constructor
  · intro h
    exact (filterReadLoop_error (.inl ⟨rfl, rfl⟩) h).2
  · rintro ⟨a, first, read⟩
    unfold filterReadAttributesBySizeType
    obtain ⟨rest, split⟩ : ∃ rest, (attrs.filter fun attr => attr.type = target) = a :: rest := by
      cases hl : (attrs.filter fun attr => attr.type = target) with
      | nil => rw [hl] at first; cases first
      | cons b rest =>
        rw [hl, List.head?_cons, Option.mem_some_iff] at first
        exact ⟨rest, by rw [first]⟩
    rw [split, filterReadLoop, read]
    rfl

/-! ## Encoding an `_elementsize_` array -/

/-- An array whose elements all have size `n` encodes exactly when one byte holds `n`. -/
theorem encodeElementSizeArray_of_sized {α : Type} [Packet α] {data : List α} {n : Nat}
    (nonempty : data ≠ []) (sized : ∀ e ∈ data, encodedLen e = n) :
    encodeElementSizeArray data =
      if n > 0xff then .error (.sizeOverflow n 0xff)
      else .ok (UInt8.ofNat n :: data.flatMap Packet.encode) := by
  obtain ⟨a, rest, rfl⟩ := List.exists_cons_of_ne_nil nonempty
  have noOther : (a :: rest).find? (fun e => encodedLen e ≠ n) = none :=
    List.find?_eq_none.2 fun e he => by simp [sized e he]
  unfold encodeElementSizeArray
  simp only [List.head?_cons, Option.map_some, Option.getD_some, sized a List.mem_cons_self]
  rw [noOther]

theorem encodedLen_readByTypeDataElement (e : AttReadByTypeDataElement) :
    encodedLen e = 2 + e.value.length := by
  simp [encodedLen, Packet.encode, encodeHandle, leBytes]

/-! ## `handle_read_by_type_request` -/

/-- What a read-by-type response is made of: the run of the attributes of the type in the
range, as elements, cut to the room of `mtu - 2`, and not empty. -/
theorem handleReadByTypeRequestPdu_eq_response {request : AttReadByTypeRequest} {mtu : Nat}
    {data : List AttReadByTypeDataElement}
    (h : handleReadByTypeRequestPdu request mtu db = .readByTypeResponse data) :
    ∃ requestType attrs run, Uuid.tryFrom request.attributeType = some requestType ∧
      filterToRange request.startingHandle request.endingHandle db.listAttributes = some attrs ∧
      filterReadAttributesBySizeType db attrs requestType (mtu - 4) = .ok run ∧
      data = (run.map fun a => (⟨a.attr.handle, a.value⟩ : AttReadByTypeDataElement)).takeWithin
        encodedLen (mtu - 2) ∧ data ≠ [] := by
  unfold handleReadByTypeRequestPdu at h
  dsimp only at h
  split at h
  · cases h
  · next requestType uuid =>
    split at h
    · cases h
    · next attrs range =>
      split at h
      · cases h
      · next run filtered =>
        split at h
        · cases h
        · next nonempty =>
          cases h
          exact ⟨requestType, attrs, run, uuid, range, filtered,
            PayloadAccumulator.elems_new_pushUntilFull _ _,
            fun empty => nonempty (List.isEmpty_iff.2 empty)⟩

/-- What the claim asks of a read-by-type response, as one bundle. -/
structure ReadByTypeSpec (request : AttReadByTypeRequest) (mtu : Nat) (db : AttDatabase)
    (data : List AttReadByTypeDataElement) : Prop where
  nonempty : data ≠ []
  /-- The elements are a prefix of the run of the attributes of the type in the range. -/
  run : ∃ requestType run, Uuid.tryFrom request.attributeType = some requestType ∧
    SameSizeRun db (mtu - 4) ((db.listAttributes.filter fun attr =>
      request.startingHandle ≤ attr.handle ∧ attr.handle ≤ request.endingHandle).filter
        fun attr => attr.type = requestType) run ∧
    data <+: run.map fun a => (⟨a.attr.handle, a.value⟩ : AttReadByTypeDataElement)
  fits : (data.map encodedLen).sum ≤ mtu - 2
  inRange : ∀ e ∈ data, request.startingHandle ≤ e.handle ∧ e.handle ≤ request.endingHandle
  increasing : (data.map AttReadByTypeDataElement.handle).Pairwise (· < ·)
  sameLength : ∀ e ∈ data, ∀ e' ∈ data, e.value.length = e'.value.length
  valueLe : ∀ e ∈ data, e.value.length ≤ mtu - 4

/-- **A read-by-type response over a sorted database meets its bundle.** -/
theorem readByTypeSpec_of_response (sorted : Sorted db.listAttributes)
    {request : AttReadByTypeRequest} {mtu : Nat} {data : List AttReadByTypeDataElement}
    (h : handleReadByTypeRequestPdu request mtu db = .readByTypeResponse data) :
    ReadByTypeSpec request mtu db data := by
  obtain ⟨requestType, attrs, run, uuid, range, filtered, built, nonempty⟩ :=
    handleReadByTypeRequestPdu_eq_response h
  have valid : ¬(request.startingHandle = 0 ∨ request.endingHandle < request.startingHandle) :=
    fun bad => by rw [filterToRange_eq_none_iff.2 bad] at range; cases range
  rw [filterToRange_eq_filter sorted valid, Option.some.injEq] at range
  subst range
  have sameRun := filterReadAttributesBySizeType_ok filtered
  have isPrefix :
      data <+: run.map fun a => (⟨a.attr.handle, a.value⟩ : AttReadByTypeDataElement) :=
    built ▸ List.takeWithin_prefix _ _
  -- every element is built from one attribute of the run, which is in the range
  have source : ∀ e ∈ data, ∃ x ∈ run, e = ⟨x.attr.handle, x.value⟩ := by
    intro e he
    obtain ⟨x, hx, rfl⟩ := List.mem_map.1 (isPrefix.subset he)
    exact ⟨x, hx, rfl⟩
  have listed : ∀ x ∈ run, request.startingHandle ≤ x.attr.handle ∧
      x.attr.handle ≤ request.endingHandle := by
    intro x hx
    have := sameRun.isPrefix.subset (List.mem_map_of_mem hx)
    simp only [List.mem_filter, decide_eq_true_eq] at this
    exact this.1.2
  refine ⟨nonempty, ⟨requestType, run, uuid, sameRun, isPrefix⟩, ?fits, ?inRange, ?increasing,
    ?sameLength, ?valueLe⟩
  case fits => exact built ▸ List.sum_takeWithin_le _ _
  case inRange =>
    intro e he
    obtain ⟨x, hx, rfl⟩ := source e he
    exact listed x hx
  case increasing =>
    -- the run's attributes are a sublist of the sorted database
    have runSorted : ((run.map AttributeWithValue.attr).map AttAttribute.handle).Pairwise
        (· < ·) := List.pairwise_map.2 (sorted.sublist (sameRun.isPrefix.sublist.trans
          ((List.filter_sublist).trans List.filter_sublist)))
    have handles : (data.map AttReadByTypeDataElement.handle).Sublist
        ((run.map AttributeWithValue.attr).map AttAttribute.handle) := by
      have := isPrefix.sublist.map AttReadByTypeDataElement.handle
      rw [List.map_map] at this ⊢
      exact this
    exact runSorted.sublist handles
  case sameLength =>
    intro e he e' he'
    obtain ⟨x, hx, rfl⟩ := source e he
    obtain ⟨y, hy, rfl⟩ := source e' he'
    exact sameRun.sameSize x hx y hy
  case valueLe =>
    intro e he
    obtain ⟨x, hx, rfl⟩ := source e he
    obtain ⟨v, -, cut⟩ := sameRun.read x hx
    rw [cut]
    exact List.length_take_le _ _

/-- Every element of a response has the size of any one of them. -/
theorem ReadByTypeSpec.sized {request : AttReadByTypeRequest} {mtu : Nat}
    {data : List AttReadByTypeDataElement} (spec : ReadByTypeSpec request mtu db data)
    {e : AttReadByTypeDataElement} (he : e ∈ data) : ∀ e' ∈ data, encodedLen e' = encodedLen e := by
  intro e' he'
  rw [encodedLen_readByTypeDataElement, encodedLen_readByTypeDataElement,
    spec.sameLength e' he' e he]

/-- **A response of elements past 255 bytes has no encoding**: the handler returns
`SizeOverflow` instead of the packet. -/
theorem handleReadByTypeRequest_sizeOverflow (sorted : Sorted db.listAttributes)
    {request : AttReadByTypeRequest} {mtu : Nat} {data : List AttReadByTypeDataElement}
    (h : handleReadByTypeRequestPdu request mtu db = .readByTypeResponse data)
    {e : AttReadByTypeDataElement} (he : e ∈ data) (large : 0xff < encodedLen e) :
    handleReadByTypeRequest request mtu db = .error (.sizeOverflow (encodedLen e) 0xff) := by
  have spec := readByTypeSpec_of_response sorted h
  rw [handleReadByTypeRequest, h, AttPdu.toAtt,
    encodeElementSizeArray_of_sized spec.nonempty (spec.sized he), if_pos large]
  rfl

/-- **Otherwise it encodes within the MTU.** -/
theorem handleReadByTypeRequest_encodedLen_le (sorted : Sorted db.listAttributes)
    {request : AttReadByTypeRequest} {mtu : Nat} {data : List AttReadByTypeDataElement}
    (h : handleReadByTypeRequestPdu request mtu db = .readByTypeResponse data)
    (small : ∀ e ∈ data, e.value.length ≤ 253) :
    ∃ att, handleReadByTypeRequest request mtu db = .ok att ∧ att.encodedLen ≤ mtu := by
  have spec := readByTypeSpec_of_response sorted h
  obtain ⟨e, he⟩ := List.exists_mem_of_ne_nil data spec.nonempty
  have fitsByte : ¬encodedLen e > 0xff := by
    have := small e he
    rw [encodedLen_readByTypeDataElement]
    omega
  -- one element alone needs two bytes, so the MTU leaves room for the size byte
  have atLeast : encodedLen e ≤ (data.map encodedLen).sum :=
    List.le_sum_of_mem (List.mem_map_of_mem he)
  have two : 2 ≤ encodedLen e := by rw [encodedLen_readByTypeDataElement]; omega
  rw [handleReadByTypeRequest, h, AttPdu.toAtt,
    encodeElementSizeArray_of_sized spec.nonempty (spec.sized he), if_neg fitsByte]
  refine ⟨_, rfl, ?_⟩
  have total : (data.flatMap Packet.encode).length = (data.map encodedLen).sum := by
    rw [List.length_flatMap]
    rfl
  simp only [Att.encodedLen, List.length_cons, total]
  have := spec.fits
  omega

/-- Past an MTU of 257, a value of 300 bytes has no encoding: the read-by-type response of a
database of that one attribute fails with `SizeOverflow`. -/
theorem read_by_type_value_past_element_size :
    let db : AttDatabase := ⟨[⟨1, Uuid.new 0x2A00⟩], fun _ => .ok (List.replicate 300 0)⟩
    let request : AttReadByTypeRequest := ⟨1, 0xFFFF, [0x00, 0x2A]⟩
    handleReadByTypeRequestPdu request 517 db =
        .readByTypeResponse [⟨1, List.replicate 300 0⟩] ∧
      handleReadByTypeRequest request 517 db = .error (.sizeOverflow 302 0xff) := by
  intro db request
  have built : handleReadByTypeRequestPdu request 517 db =
      .readByTypeResponse [⟨1, List.replicate 300 0⟩] := by
    set_option maxRecDepth 8000 in
    decide
  have sorted : Sorted db.listAttributes := List.pairwise_singleton _ _
  have size : encodedLen (⟨1, List.replicate 300 0⟩ : AttReadByTypeDataElement) = 302 := by
    rw [encodedLen_readByTypeDataElement, List.length_replicate]
  refine ⟨built, ?_⟩
  rw [← size]
  exact handleReadByTypeRequest_sizeOverflow sorted built List.mem_cons_self (by rw [size]; decide)

end AttServer

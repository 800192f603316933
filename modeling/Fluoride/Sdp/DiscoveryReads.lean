import Fluoride.Sdp.Discovery

/-!
# Where the SDP client's response parser reads

`process_service_search_attr_rsp` checks every length it reads against an end, but the end
it checks the attribute after an id against is the end of the record's sequence, and
`add_attr` reads an element's header byte before it compares anything: an attribute id that
ends its record's sequence makes `add_attr` read the byte after the sequence. When the
record is the last one, that byte is `rsp_list[list_len]`, one past the response
(`processServiceSearchAttrRsp_reads_past_end`).

That is as far as it goes: every offset the parser reads is at most `list_len`, and the
free memory of the discovery database never goes below zero (`parseInv_process`). Both are
one invariant, `ParseInv`, kept by each primitive (`ParseInv.read`, `ParseInv.reserve`) and
carried through `add_attr`'s recursion and the cursor loops by `Cursor.cursorLoop_invariant`.
-/

namespace Sdp

open Cursor

/-! ## The primitives -/

@[simp] theorem ParseState.reads_readAt (s : ParseState) (offsets : List Nat) :
    (s.readAt offsets).reads = s.reads ++ offsets := rfl

@[simp] theorem ParseState.db_readAt (s : ParseState) (offsets : List Nat) :
    (s.readAt offsets).db = s.db := rfl

@[simp] theorem ParseState.reads_read (s : ParseState) (p n : Nat) :
    (s.read p n).reads = s.reads ++ List.range' p n := rfl

@[simp] theorem ParseState.db_read (s : ParseState) (p n : Nat) : (s.read p n).db = s.db := rfl

@[simp] theorem ParseState.reads_reserve (s : ParseState) (n : Nat) :
    (s.reserve n).reads = s.reads := rfl

@[simp] theorem ParseState.memFree_reserve (s : ParseState) (n : Nat) :
    (s.reserve n).db.memFree = s.db.memFree - n := rfl

/-! ## The invariant -/

/-- What the parser keeps: every offset it has read is at most `bound`, and the database's
free memory is not below zero. -/
structure ParseInv (bound : Nat) (s : ParseState) : Prop where
  readsWithin : ∀ i ∈ s.reads, i ≤ bound
  memFree_nonneg : 0 ≤ s.db.memFree

section Primitives

variable {bound : Nat} {s : ParseState}

theorem ParseInv.readAt {offsets : List Nat} (inv : ParseInv bound s)
    (within : ∀ i ∈ offsets, i ≤ bound) : ParseInv bound (s.readAt offsets) := by
  refine ⟨?_, inv.memFree_nonneg⟩
  intro i mem
  rcases List.mem_append.1 mem with old | new
  · exact inv.readsWithin i old
  · exact within i new

theorem ParseInv.read {p n : Nat} (inv : ParseInv bound s) (within : p + n ≤ bound + 1) :
    ParseInv bound (s.read p n) := by
  apply inv.readAt
  intro i mem
  have := List.mem_range'_1.1 mem
  omega

theorem ParseInv.reserve {n : Nat} (inv : ParseInv bound s) (room : (n : Int) ≤ s.db.memFree) :
    ParseInv bound (s.reserve n) :=
  ⟨inv.readsWithin, by simp only [ParseState.memFree_reserve]; omega⟩

theorem ParseInv.setLastRecord (inv : ParseInv bound s) (attrs : List DiscAttr) :
    ParseInv bound (s.setLastRecord attrs) :=
  ⟨inv.readsWithin, inv.memFree_nonneg⟩

end Primitives

section Parse

variable (rsp : List UInt8) (nil : Bool)

/-- Past its end, `sdpu_get_len_from_type` reads nothing, and whatever length it reports
runs past the end. -/
theorem sdpuGetLenFromType_of_lt {p pEnd : Nat} (type : UInt8) (s : ParseState)
    (h : pEnd < p) :
    (sdpuGetLenFromType rsp nil p pEnd type s).1 = s ∧
      ∀ p' len, (sdpuGetLenFromType rsp nil p pEnd type s).2 = some (p', len) →
        pEnd < p' + len := by
  unfold sdpuGetLenFromType
  split
  all_goals first
    | (refine ⟨rfl, ?_⟩
       simp only [Option.some.injEq, Prod.mk.injEq, and_imp]
       omega)
    | rw [if_pos (by omega)]
      exact ⟨rfl, by simp⟩

/-- `sdpu_get_len_from_type` reads its size field only below `pEnd`. -/
theorem parseInv_sdpuGetLenFromType {bound p pEnd : Nat} (type : UInt8) {s : ParseState}
    (inv : ParseInv bound s) (within : pEnd ≤ bound + 1) :
    ParseInv bound (sdpuGetLenFromType rsp nil p pEnd type s).1 := by
  unfold sdpuGetLenFromType
  split
  all_goals first
    | exact inv
    | (split
       · exact inv
       · exact inv.read (by omega))

/-- `sdpu_is_base_uuid` reads only the bytes of the UUID it is given offsets of. -/
theorem mem_sdpuIsBaseUuidFrom {p i : Nat} :
    ∀ {xs : List Nat}, i ∈ (sdpuIsBaseUuidFrom rsp p xs).2 → ∃ xx ∈ xs, i = p + xx
  | [], mem => by simp [sdpuIsBaseUuidFrom] at mem
  | xx :: rest, mem => by
    unfold sdpuIsBaseUuidFrom at mem
    split at mem
    · exact ⟨xx, List.mem_cons_self, by simpa using mem⟩
    · rcases List.mem_cons.1 mem with here | later
      · exact ⟨xx, List.mem_cons_self, here⟩
      · obtain ⟨yy, mem', eq⟩ := mem_sdpuIsBaseUuidFrom later
        exact ⟨yy, List.mem_cons_of_mem _ mem', eq⟩

theorem reads_storeInt (p attrLen : Nat) (attrLenType : UInt16) :
    ∀ i ∈ (storeInt rsp p attrLen attrLenType).reads, p ≤ i ∧ i < p + attrLen := by
  intro i mem
  unfold storeInt at mem
  split at mem
  all_goals
    simp only [List.mem_singleton, List.mem_range'_1] at mem
    omega

theorem reads_storeUuid128 (p : Nat) (attrLenType : UInt16) :
    ∀ i ∈ (storeUuid128 rsp p attrLenType).reads, p ≤ i ∧ i < p + 16 := by
  intro i mem
  -- the base UUID test reads bytes 4 to 15, the stores below read bytes 0 to 15
  have base : i ∈ (sdpuIsBaseUuid rsp p).2 → p ≤ i ∧ i < p + 16 := by
    intro mem
    obtain ⟨xx, range, rfl⟩ := mem_sdpuIsBaseUuidFrom rsp mem
    have := List.mem_range'_1.1 range
    omega
  by_cases inBase : i ∈ (sdpuIsBaseUuid rsp p).2
  · exact base inBase
  unfold storeUuid128 at mem
  dsimp only at mem
  split_ifs at mem
  all_goals
    simp only [List.mem_append, List.mem_cons, List.mem_range'_1, inBase, List.not_mem_nil,
      false_or, or_false] at mem
    omega

/-- The value `add_attr` stores is read inside the attribute. -/
theorem reads_storeValue {p attrLen : Nat} {attrType : UInt8} {attrLenType : UInt16}
    {v : Stored} (h : storeValue rsp p attrType attrLen attrLenType = some v) :
    ∀ i ∈ v.reads, p ≤ i ∧ i < p + attrLen := by
  unfold storeValue at h
  split_ifs at h
  · cases h
    exact reads_storeInt rsp p attrLen attrLenType
  · -- the UUID lengths: 2 and 4 bytes read whole, 16 bytes by `storeUuid128`
    split at h
    · cases h
      intro i mem
      simp only [List.mem_range'_1] at mem
      omega
    · dsimp only at h
      split at h
      all_goals
        cases h
        intro i mem
        simp only [List.mem_range'_1] at mem
        omega
    · cases h
      exact reads_storeUuid128 rsp p attrLenType
    · cases h
  · cases h
    intro i mem
    simp only [List.mem_range'_1] at mem
    omega
  · cases h
    intro i mem
    simp only [List.mem_singleton] at mem
    omega
  · cases h
    simp

/-- The memory `add_attr` checks for covers the attribute it reserves before its elements. -/
theorem sizeofDiscAttr_le_totalLen (attrLen : Nat) :
    sizeofDiscAttr ≤
      ((if attrLen > 4 then attrLen - 4 + sizeofDiscAttr else sizeofDiscAttr) + 3) / 4 * 4 := by
  split <;> omega

/-- `add_attr` from `p ≤ pEnd ≤ bound` keeps the invariant: it reads its header byte at `p`,
its size field and its value below `pEnd`, recurses from positions up to `pEnd`, and takes
memory only where `mem_free` has it. By induction on the levels left below
`MAX_NEST_LEVELS`, the measure of its recursion. -/
theorem parseInv_addAttr {bound pEnd : Nat} (within : pEnd ≤ bound) :
    ∀ (k : Nat) (attrId : UInt16) (isAdditionalList : Bool) (nestLevel p : Nat)
      (chain : List DiscAttr) (s : ParseState), maxNestLevels - nestLevel = k → p ≤ pEnd →
      ParseInv bound s →
      ParseInv bound (addAttr rsp nil pEnd attrId isAdditionalList nestLevel p chain s).1.1 := by
  intro k
  induction k using Nat.strong_induction_on with
  | _ k ih =>
  intro attrId isAdditionalList nestLevel p chain s measure start inv
  have header := parseInv_sdpuGetLenFromType rsp nil (p := p + 1) (rsp.getD p 0)
    (inv.read (p := p) (n := 1) (by omega)) (by omega : pEnd ≤ bound + 1)
  rw [addAttr]
  split
  · next s' get =>
    rw [get] at header
    exact header
  · next s' p1 attrLen get =>
    rw [get] at header
    dsimp only at header ⊢
    -- the memory `add_attr` checks for covers the attribute it reserves first
    have covers := sizeofDiscAttr_le_totalLen (attrLen &&& sdpDiscAttrLenMask)
    generalize ((if (attrLen &&& sdpDiscAttrLenMask) > 4 then
      (attrLen &&& sdpDiscAttrLenMask) - 4 + sizeofDiscAttr else sizeofDiscAttr) + 3) / 4 * 4 =
        totalLen at covers ⊢
    split_ifs with tooLong pastEnd noRoom protocol deep seq deep'
    · exact header
    · exact header
    · exact header
    · -- too deep below an additional protocol list: reserved, not linked
      exact (header.read (by omega)).reserve (by simp only [ParseState.db_read]; omega)
    · -- the protocol list under it, from the byte after the id
      exact ih _ (by omega) attrIdProtocolDescList false (nestLevel + 1) (p1 + 2) []
        ((s'.read p1 2).reserve sizeofDiscAttr) rfl (by omega)
        ((header.read (by omega)).reserve (by simp only [ParseState.db_read]; omega))
    · exact header.reserve (by omega)
    · -- the elements, each from a position inside the sequence, against `pEnd`
      have loop := cursorLoop_invariant (P := fun st : ParseState × List DiscAttr =>
          ParseInv bound st.1)
        (fun q st (inside : q < p1 + (attrLen &&& sdpDiscAttrLenMask)) stInv =>
          ih _ (by omega) 0 (isAdditionalList || attrId == attrIdAdditionProtoDescLists)
            (nestLevel + 1) q st.2 st.1 rfl (by omega) stInv)
        p1 (s'.reserve sizeofDiscAttr, []) (header.reserve (by omega))
      split
      · next s'' subs failed => rw [failed] at loop; exact loop
      · next s'' subs q done => rw [done] at loop; exact loop
    all_goals
      split
      · first
          | exact header
          | exact header.read (by omega)
      · next v stored =>
        first
          | exact (header.readAt fun i mem => by
              have := reads_storeValue rsp stored i mem; omega).reserve (by simp; omega)
          | exact ((header.read (by omega)).readAt fun i mem => by
              have := reads_storeValue rsp stored i mem; omega).reserve (by simp; omega)

/-- One attribute of `save_attr_seq`'s loop, from inside the record's sequence: its id ends in
the sequence, and `add_attr` starts at most at the sequence's end. -/
theorem parseInv_saveAttrSeqEntry {bound pSeqEnd pMsgEnd : Nat} (seqWithin : pSeqEnd ≤ pMsgEnd)
    (within : pMsgEnd ≤ bound) {p : Nat} (st : ParseState × List DiscAttr) (inside : p < pSeqEnd)
    (inv : ParseInv bound st.1) :
    ParseInv bound (saveAttrSeqEntry rsp nil pSeqEnd pMsgEnd p st).1.1 := by
  have header := parseInv_sdpuGetLenFromType rsp nil (p := p + 1) (rsp.getD p 0)
    (inv.read (p := p) (n := 1) (by omega)) (by omega : pMsgEnd ≤ bound + 1)
  rw [saveAttrSeqEntry]
  dsimp only
  split
  · next s' get =>
    rw [get] at header
    exact header
  · next s' p1 attrLen get =>
    rw [get] at header
    dsimp only at header ⊢
    split_ifs with tooLong notId
    · exact header
    · exact header
    · -- the id is two bytes, so the value starts at most at the sequence's end
      exact parseInv_addAttr rsp nil (by omega) _ _ false 0 (p1 + 2) st.2 (s'.read p1 2) rfl
        (by omega) (header.read (by omega))

theorem parseInv_addRecord {bound : Nat} {s s' : ParseState} (inv : ParseInv bound s)
    (added : addRecord s = some s') : ParseInv bound s' := by
  unfold addRecord at added
  split_ifs at added with noRoom
  cases added
  exact ⟨inv.readsWithin, by simp only [ParseState.memFree_reserve]; omega⟩

/-- `save_attr_seq` from inside the message: its header byte, its size field and every
attribute of the record, against a sequence end inside the message. -/
theorem parseInv_saveAttrSeq {bound pMsgEnd : Nat} (within : pMsgEnd ≤ bound) {p : Nat}
    (s : ParseState) (inside : p < pMsgEnd) (inv : ParseInv bound s) :
    ParseInv bound (saveAttrSeq rsp nil pMsgEnd p s).1 := by
  have typeRead : ParseInv bound (s.read p 1) := inv.read (by omega)
  have header := parseInv_sdpuGetLenFromType rsp nil (p := p + 1) (rsp.getD p 0) typeRead
    (by omega : pMsgEnd ≤ bound + 1)
  rw [saveAttrSeq]
  dsimp only
  split_ifs with notSeq
  · exact typeRead
  split
  · next s' get =>
    rw [get] at header
    exact header
  · next s' p1 seqLen get =>
    rw [get] at header
    dsimp only at header ⊢
    split_ifs with tooLong
    · exact header
    split
    · exact header
    · next s'' added =>
      have loop := cursorLoop_invariant (P := fun st : ParseState × List DiscAttr =>
          ParseInv bound st.1)
        (fun q st (inside : q < p1 + seqLen) stInv =>
          parseInv_saveAttrSeqEntry rsp nil (by omega) within st inside stInv)
        p1 (s'', []) (parseInv_addRecord header added)
      exact loop.setLastRecord _

/-- **Where the parser reads.** `process_service_search_attr_rsp` reads no byte past
`rsp_list[list_len]`, and leaves the database's free memory non-negative. -/
theorem parseInv_processServiceSearchAttrRsp (s : ParseState) (inv : ParseInv rsp.length s) :
    ParseInv rsp.length (processServiceSearchAttrRsp rsp nil s).1 := by
  have typeRead : ParseInv rsp.length (s.read 0 1) := inv.read (by omega)
  -- the outer size field is checked against `1 + list_len`: at most one byte past the list
  have header := parseInv_sdpuGetLenFromType rsp nil (p := 1) (rsp.getD 0 0) typeRead
    (by omega : 1 + rsp.length ≤ rsp.length + 1)
  rw [processServiceSearchAttrRsp]
  split_ifs with notSeq
  · exact typeRead
  split
  · next s' get =>
    rw [get] at header
    exact header
  · next s' p seqLen get =>
    rw [get] at header
    dsimp only at header ⊢
    split_ifs with tooLong notFilled
    · exact header
    · exact header
    · have loop := cursorLoop_invariant (P := ParseInv rsp.length)
        (fun q t (inside : q < rsp.length) tInv =>
          parseInv_saveAttrSeq rsp nil (Nat.le_refl _) t inside tInv)
        p s' header
      split
      · next t failed => rw [failed] at loop; exact loop
      · next t q done => rw [done] at loop; exact loop

/-- `add_attr` at or past its end reads the header byte there and returns `NULL`. -/
theorem addAttr_of_le {pEnd p : Nat} (attrId : UInt16) (isAdditionalList : Bool)
    (nestLevel : Nat) (chain : List DiscAttr) (s : ParseState) (h : pEnd ≤ p) :
    addAttr rsp nil pEnd attrId isAdditionalList nestLevel p chain s =
      ((s.read p 1, chain), none) := by
  have header := sdpuGetLenFromType_of_lt rsp nil (rsp.getD p 0) (s.read p 1)
    (Nat.lt_succ_of_le h)
  rw [addAttr]
  split
  · next s' fail =>
    rw [fail] at header
    rw [← header.1]
  · next s' p1 attrLen get =>
    rw [get] at header
    rw [if_pos (header.2 p1 attrLen rfl), ← header.1]

/-- An attribute id (`0x09`, an unsigned integer of two bytes) that ends the record's
sequence: `save_attr_seq` reads it and calls `add_attr` at the end of the sequence, which
reads the byte there and returns `NULL`. -/
theorem saveAttrSeqEntry_id_at_end {pSeqEnd pMsgEnd p : Nat} (chain : List DiscAttr)
    (s : ParseState) (type : rsp.getD p 0 = 0x09) (ends : p + 3 = pSeqEnd) :
    saveAttrSeqEntry rsp nil pSeqEnd pMsgEnd p (s, chain) =
      ((((s.read p 1).read (p + 1) 2).read pSeqEnd 1, chain), none) := by
  have header : sdpuGetLenFromType rsp nil (p + 1) pMsgEnd (rsp.getD p 0) (s.read p 1) =
      (s.read p 1, some (p + 1, 2)) := by
    rw [type]
    rfl
  rw [saveAttrSeqEntry]
  dsimp only
  split
  · next s' fail => rw [header] at fail; cases fail
  · next s' p1 attrLen get =>
    rw [header] at get
    cases get
    have isId : ¬(rsp.getD p 0 >>> 3 ≠ uintDescType ∨ 2 ≠ 2) := by rw [type]; decide
    subst ends
    rw [if_neg (by omega), if_neg isId, addAttr_of_le _ _ _ _ _ _ _ (by omega)]
    rfl

end Parse

/-- A response of one record whose one attribute id has no value: `[0x35, 5]` opens the list,
`[0x35, 3]` the record, `[0x09, 0x00, 0x01]` is the id `0x0001`. The parser reads
`rsp_list[7]`, one past the response, and ends with `SDP_DB_FULL`, for either setting of the
nil-type flag and every database with room for a record. -/
theorem processServiceSearchAttrRsp_reads_past_end (nil : Bool) (free : Nat)
    (records : List DiscRec) (reads : List Nat) :
    let rsp : List UInt8 := [0x35, 0x05, 0x35, 0x03, 0x09, 0x00, 0x01]
    let r := processServiceSearchAttrRsp rsp nil ⟨⟨(sizeofDiscRec + free : Nat), records⟩, reads⟩
    rsp.length ∈ r.1.reads ∧ r.2 = .sdpDbFull := by
  intro rsp r
  let s : ParseState := ⟨⟨(sizeofDiscRec + free : Nat), records⟩, reads⟩
  -- the outer header: a sequence of five bytes, filling the list
  have outer : sdpuGetLenFromType rsp nil 1 (1 + rsp.length) (rsp.getD 0 0) (s.read 0 1) =
      ((s.read 0 1).read 1 1, some (2, 5)) := by
    unfold rsp
    rfl
  let s₁ := (s.read 0 1).read 1 1
  -- the record's header at 2: a sequence of three bytes, ending the list
  have inner : sdpuGetLenFromType rsp nil (2 + 1) rsp.length (rsp.getD 2 0) (s₁.read 2 1) =
      ((s₁.read 2 1).read 3 1, some (4, 3)) := by
    unfold rsp
    rfl
  have room : addRecord ((s₁.read 2 1).read 3 1) =
      some { ((s₁.read 2 1).read 3 1).reserve sizeofDiscRec with db.records := records ++ [⟨[]⟩] } := by
    rw [addRecord, if_neg (by simp [s₁, s])]
    rfl
  have record : ∃ t, saveAttrSeq rsp nil rsp.length 2 s₁ = (t, none) ∧ rsp.length ∈ t.reads := by
    rw [saveAttrSeq]
    dsimp only
    rw [if_neg (by decide)]
    split
    · next s' fail => rw [inner] at fail; cases fail
    · next s' p1 seqLen get =>
      rw [inner] at get
      cases get
      rw [if_neg (by decide), room]
      dsimp only
      rw [cursorLoop_of_fail (by decide) (saveAttrSeqEntry_id_at_end rsp nil [] _ rfl rfl)]
      exact ⟨_, rfl, by simp [ParseState.setLastRecord, rsp]⟩
  obtain ⟨t, saved, past⟩ := record
  have run : processServiceSearchAttrRsp rsp nil s = (t, .sdpDbFull) := by
    rw [processServiceSearchAttrRsp, if_neg (by decide), outer]
    dsimp only
    rw [if_neg (by decide), if_neg (by decide), cursorLoop_of_fail (by decide) saved]
  show rsp.length ∈ (processServiceSearchAttrRsp rsp nil s).1.reads ∧
    (processServiceSearchAttrRsp rsp nil s).2 = .sdpDbFull
  rw [run]
  exact ⟨past, rfl⟩

end Sdp

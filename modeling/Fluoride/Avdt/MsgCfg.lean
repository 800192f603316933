import Fluoride.Avdt.Msg
import Fluoride.Lib.Suffix
import Mathlib.Tactic.IntervalCases
import Mathlib.Data.Nat.Bitwise

/-!
# AVDTP — what the configuration parser guarantees, and the round trip

About `avdt_msg_prs_cfg` on every byte string, length and signal:

* **it terminates** (`avdtMsgPrsCfg_isSome`): every round consumes the two header bytes
  or sets an error, the variant of `Loop.whileLoop_isSome_of_measure`;
* **it reads only `[p, p + len)`** (`avdtMsgPrsCfg_congr_take`): two buffers that agree
  there give the same result, since every read is behind a length check, so
  `Loop.whileLoop_congr` applies;
* **what it accepts is a sequence of elements** (`avdtMsgPrsCfg_elements`): when it
  returns 0, each element's header lies inside the bytes and its length passed the check
  of its category; the last element may declare more bytes than there are;
* **it writes only inside the arrays, and what it stores came from the elements it
  walked** (`PrsCfgInv` over the offsets of the elements walked, kept by every round, and
  `avdtMsgPrsCfg_stored`): the codec information is the length byte and as many value
  bytes as were copied of the last codec element walked; the protection information
  starts with length-prefixed copies, in order, of walked content protection elements,
  ending before `AVDT_PROTECT_SIZE`. A round that sets the error stores nothing.

The codec case checks only the bytes it copies (at most `AVDT_CODEC_SIZE - 1`) against
the end, and stores the element's own length: that length can exceed both.

Then the round trip: `avdt_msg_bld_cfg` followed by `avdt_msg_prs_cfg` recovers the
categories, the codec information and a content protection entry whose length is at
least `AVDT_LEN_PROTECT_MIN`. One lemma per kind of element says what a round does on
it; the run over the message is their composition.
-/

namespace Avdt

open Suffix

/-! ## §1 — bytes -/

section Bytes

variable {dst src buf buf' : List UInt8} {off n len : Nat}

theorem length_memcpy (h : off + src.length ≤ dst.length) :
    (memcpy dst off src).length = dst.length := by
  simp only [memcpy, List.length_append, List.length_take, List.length_drop]
  omega

theorem take_memcpy_set {a : UInt8} (h : off + 1 + src.length ≤ dst.length) :
    (memcpy (dst.set off a) (off + 1) src).take (off + 1 + src.length) =
      dst.take off ++ a :: src := by
  have hset : (dst.set off a).take (off + 1) = dst.take off ++ [a] := by
    rw [List.set_eq_take_append_cons_drop, if_pos (by omega), List.take_append]
    simp [Nat.min_eq_left (by omega : off ≤ dst.length)]
  have hlen : ((dst.set off a).take (off + 1) ++ src).length = off + 1 + src.length := by
    simp only [List.length_append, List.length_take, List.length_set]
    omega
  rw [memcpy, List.take_left' hlen, hset, List.append_assoc, List.singleton_append]

theorem length_readBytes (h : off + n ≤ buf.length) : (readBytes buf off n).length = n := by
  simp only [readBytes, List.length_take, List.length_drop]
  omega

theorem length_readBytes_le : (readBytes buf off n).length ≤ n := by
  simp [readBytes]

theorem readBytes_succ (h : off < buf.length) :
    readBytes buf off (n + 1) = buf.getD off 0 :: readBytes buf (off + 1) n := by
  rw [readBytes, List.drop_eq_getElem_cons h, List.take_succ_cons, List.getD_eq_getElem _ _ h]
  rfl

/-- Two buffers that agree on their first `len` bytes agree on every read inside them. -/
theorem getD_of_take_eq (h : buf.take len = buf'.take len) {i : Nat} (hi : i < len) :
    buf.getD i 0 = buf'.getD i 0 := by
  have := congrArg (fun l => l.getD i 0) h
  simpa [List.getD_eq_getElem?_getD, List.getElem?_take, hi] using this

theorem readBytes_of_take_eq (h : buf.take len = buf'.take len) (hn : off + n ≤ len) :
    readBytes buf off n = readBytes buf' off n := by
  have := congrArg (fun l => readBytes l off n) h
  simpa [readBytes, List.drop_take, List.take_take, Nat.min_eq_left (by omega : n ≤ len - off)]
    using this

end Bytes

/-! ## §2 — every round moves on: termination -/

section Round

variable (buf : List UInt8) (pEnd : Nat)

variable {n : Nat}

theorem pos_le_prsCfgRecov {st : PrsCfgState} (h : n ≤ st.pos) :
    n ≤ (prsCfgRecov buf pEnd st).pos := by
  unfold prsCfgRecov
  split_ifs <;> simp <;> omega

theorem pos_le_prsCfgProtect (elemLen : UInt8) {st : PrsCfgState} (h : n ≤ st.pos) :
    n ≤ (prsCfgProtect buf pEnd elemLen st).pos := by
  unfold prsCfgProtect
  dsimp only
  split_ifs <;> simp <;> omega

theorem pos_le_prsCfgHdrcmp {st : PrsCfgState} (h : n ≤ st.pos) :
    n ≤ (prsCfgHdrcmp buf pEnd st).pos := by
  unfold prsCfgHdrcmp
  split_ifs <;> simp <;> omega

theorem pos_le_prsCfgCodec (elemLen : UInt8) {st : PrsCfgState} (h : n ≤ st.pos) :
    n ≤ (prsCfgCodec buf pEnd elemLen st).pos := by
  unfold prsCfgCodec
  dsimp only
  split <;> split <;> simp <;> omega

/-- A round either stops the loop with an error or moves past the element header. -/
theorem avdtMsgPrsCfgBody_progress (sigId : UInt8) (st : PrsCfgState) :
    (avdtMsgPrsCfgBody buf pEnd sigId st).err ≠ 0 ∨
      st.pos + 2 ≤ (avdtMsgPrsCfgBody buf pEnd sigId st).pos := by
  unfold avdtMsgPrsCfgBody
  by_cases hshort : pEnd - st.pos < avdtLenCfgMin
  · rw [if_pos hshort]
    exact .inl (show avdtErrPayload ≠ 0 by decide)
  rw [if_neg hshort]
  refine .inr ?_
  dsimp only
  -- past the header every branch keeps or advances `p`
  split_ifs
  all_goals first
    | exact pos_le_prsCfgRecov buf pEnd le_rfl
    | exact pos_le_prsCfgProtect buf pEnd _ le_rfl
    | exact pos_le_prsCfgHdrcmp buf pEnd le_rfl
    | exact pos_le_prsCfgCodec buf pEnd _ le_rfl
    | simp

end Round

/-- **`avdt_msg_prs_cfg` terminates**: `len + 2` rounds always suffice. -/
theorem avdtMsgPrsCfg_isSome (cfg : AvdtpSepConfig) (buf : List UInt8) (len : Nat)
    (sigId : UInt8) : (avdtMsgPrsCfg cfg buf len sigId).isSome := by
  -- the bytes left, or nothing once an error is set
  apply Loop.whileLoop_isSome_of_measure fun st => if st.err = 0 then len + 1 - st.pos else 0
  · rintro st ⟨hpos, herr⟩
    rcases avdtMsgPrsCfgBody_progress buf len sigId st with h | h
    · simp only [h, herr, if_false, if_true]
      omega
    · simp only [herr, if_true]
      split_ifs <;> omega
  · simp

/-! ## §3 — nothing past `p + len` is read -/

section Congr

variable {buf buf' : List UInt8} {pEnd : Nat}

theorem prsCfgRecov_congr (h : buf.take pEnd = buf'.take pEnd) (st : PrsCfgState) :
    prsCfgRecov buf pEnd st = prsCfgRecov buf' pEnd st := by
  unfold prsCfgRecov
  split_ifs with hlen
  · rfl
  · rw [getD_of_take_eq h (by omega : st.pos < pEnd), getD_of_take_eq h (by omega : st.pos + 1 < pEnd),
      getD_of_take_eq h (by omega : st.pos + 2 < pEnd)]

theorem prsCfgProtect_congr (h : buf.take pEnd = buf'.take pEnd) (elemLen : UInt8)
    (st : PrsCfgState) : prsCfgProtect buf pEnd elemLen st = prsCfgProtect buf' pEnd elemLen st := by
  unfold prsCfgProtect
  dsimp only
  -- the only read is the copy, behind the end check
  split_ifs <;> first
    | rfl
    | rw [readBytes_of_take_eq h (by omega)]

theorem prsCfgHdrcmp_congr (h : buf.take pEnd = buf'.take pEnd) (st : PrsCfgState) :
    prsCfgHdrcmp buf pEnd st = prsCfgHdrcmp buf' pEnd st := by
  unfold prsCfgHdrcmp
  split_ifs with hlen
  · rfl
  · rw [getD_of_take_eq h (by omega : st.pos < pEnd)]

theorem prsCfgCodec_congr (h : buf.take pEnd = buf'.take pEnd) (elemLen : UInt8)
    (st : PrsCfgState) : prsCfgCodec buf pEnd elemLen st = prsCfgCodec buf' pEnd elemLen st := by
  unfold prsCfgCodec
  dsimp only
  split_ifs <;> first
    | rfl
    | rw [readBytes_of_take_eq h (by omega)]

theorem avdtMsgPrsCfgBody_congr (h : buf.take pEnd = buf'.take pEnd) (sigId : UInt8)
    (st : PrsCfgState) :
    avdtMsgPrsCfgBody buf pEnd sigId st = avdtMsgPrsCfgBody buf' pEnd sigId st := by
  unfold avdtMsgPrsCfgBody
  by_cases hshort : pEnd - st.pos < avdtLenCfgMin
  · rw [if_pos hshort, if_pos hshort]
  rw [if_neg hshort, if_neg hshort]
  unfold avdtLenCfgMin at hshort
  rw [getD_of_take_eq h (by omega : st.pos < pEnd), getD_of_take_eq h (by omega : st.pos + 1 < pEnd)]
  simp only [prsCfgRecov_congr h, prsCfgProtect_congr h, prsCfgHdrcmp_congr h,
    prsCfgCodec_congr h]

/-- **`avdt_msg_prs_cfg` reads only `[p, p + len)`**: buffers that agree there give the
same result. -/
theorem avdtMsgPrsCfg_congr_take (h : buf.take pEnd = buf'.take pEnd) (cfg : AvdtpSepConfig)
    (sigId : UInt8) : avdtMsgPrsCfg cfg buf pEnd sigId = avdtMsgPrsCfg cfg buf' pEnd sigId :=
  Loop.whileLoop_congr (fun st _ => avdtMsgPrsCfgBody_congr h sigId st) _ _

end Congr

/-! ## §4 — what the parse stores came from the elements it walked -/

section Stored

/-- Every category the parser knows has a non-zero length error. -/
theorem avdtMsgIeErr_ne_zero {elem : UInt8} (h0 : elem ≠ 0) (h8 : ¬ avdtCatMaxCur < elem) :
    avdtMsgIeErr.getD elem.toNat 0 ≠ 0 := by
  have hlo : 0 < elem.toNat := Nat.pos_of_ne_zero fun h => h0 (UInt8.toNat_inj.mp h)
  have hhi : elem.toNat ≤ 8 := by
    rw [UInt8.lt_iff_toNat_lt] at h8
    exact Nat.le_of_not_lt h8
  obtain ⟨k, hk⟩ : ∃ k, elem.toNat = k := ⟨_, rfl⟩
  rw [hk] at hlo hhi ⊢
  interval_cases k <;> decide

variable (buf : List UInt8) (len : Nat)

/-- The offsets among `ps` of the elements of category `cat`, in order. -/
def catPositions (cat : UInt8) (ps : List Nat) : List Nat :=
  ps.filter fun i => buf.getD i 0 == cat

/-- The codec element at `i`, of at least `AVDT_LEN_CODEC_MIN` bytes, is what the codec
information holds: its length byte and its first value bytes, as many as the copy takes
(at most `AVDT_CODEC_SIZE - 1`). Those lie inside the first `len` bytes; the length need
not. -/
def CodecFromBuffer (i : Nat) (codecInfo : List UInt8) : Prop :=
  2 ≤ (buf.getD (i + 1) 0).toNat ∧
    i + 2 + min (buf.getD (i + 1) 0).toNat (avdtCodecSize - 1) ≤ len ∧
    codecInfo.take (min (buf.getD (i + 1) 0).toNat (avdtCodecSize - 1) + 1) =
      readBytes buf (i + 1) (min (buf.getD (i + 1) 0).toNat (avdtCodecSize - 1) + 1)

/-- The content protection element at `i` as it is stored: its length byte and value. -/
def protectEntry (i : Nat) : List UInt8 :=
  readBytes buf (i + 1) ((buf.getD (i + 1) 0).toNat + 1)

/-- The first `off` bytes of `protect_info` are the elements at the offsets `hs`, each of
at least `AVDT_LEN_PROTECT_MIN` bytes and lying inside the first `len` bytes. -/
def ProtectEntries (hs : List Nat) (protectInfo : List UInt8) (off : Nat) : Prop :=
  (∀ i ∈ hs, 2 ≤ (buf.getD (i + 1) 0).toNat ∧ i + 2 + (buf.getD (i + 1) 0).toNat ≤ len) ∧
    protectInfo.take off = hs.flatMap (protectEntry buf)

/-- What the parse has stored: the arrays, the counts and `protect_offset`. -/
def PrsCfgState.stored (st : PrsCfgState) :
    List UInt8 × List UInt8 × UInt8 × UInt8 × Nat :=
  (st.cfg.codecInfo, st.cfg.protectInfo, st.cfg.numCodec, st.cfg.numProtect, st.protectOffset)

/-- The loop invariant of `avdt_msg_prs_cfg`, over the offsets `ps` of the elements walked so
far: the arrays keep their sizes; the protection entries stored end at `protect_offset`,
inside the array, and are walked content protection elements, in order; and a parsed codec
is the last codec element walked. -/
structure PrsCfgInv (ps : List Nat) (st : PrsCfgState) : Prop where
  length_codecInfo : st.cfg.codecInfo.length = avdtCodecSize
  length_protectInfo : st.cfg.protectInfo.length = avdtProtectSize
  protectOffset_le : st.protectOffset ≤ avdtProtectSize
  /-- Every entry takes at least three bytes, so the count cannot wrap. -/
  three_mul_numProtect_le : 3 * st.cfg.numProtect.toNat ≤ st.protectOffset
  protect : ∃ hs, hs.Sublist (catPositions buf avdtCatProtect ps) ∧
    hs.length = st.cfg.numProtect.toNat ∧ ProtectEntries buf len hs st.cfg.protectInfo st.protectOffset
  codec : st.cfg.numCodec ≠ 0 → ∃ i, (catPositions buf avdtCatCodec ps).getLast? = some i ∧
    CodecFromBuffer buf len i st.cfg.codecInfo

variable {buf len} {ps : List Nat}

theorem catPositions_append_of_ne {cat : UInt8} {p : Nat} (h : buf.getD p 0 ≠ cat) :
    catPositions buf cat (ps ++ [p]) = catPositions buf cat ps := by
  have skip : (buf.getD p 0 == cat) = false := beq_false_of_ne h
  rw [catPositions, catPositions, List.filter_append, List.filter_singleton, skip, cond_false,
    List.append_nil]

theorem catPositions_append_of_eq {cat : UInt8} {p : Nat} (h : buf.getD p 0 = cat) :
    catPositions buf cat (ps ++ [p]) = catPositions buf cat ps ++ [p] := by
  have keep : (buf.getD p 0 == cat) = true := beq_iff_eq.2 h
  rw [catPositions, catPositions, List.filter_append, List.filter_singleton, keep, cond_true]

theorem catPositions_sublist_append (cat : UInt8) (p : Nat) :
    (catPositions buf cat ps).Sublist (catPositions buf cat (ps ++ [p])) := by
  simp only [catPositions, List.filter_append]
  exact List.sublist_append_left _ _

theorem PrsCfgInv.of_stored {st st' : PrsCfgState} (h : PrsCfgInv buf len ps st)
    (he : st'.stored = st.stored) : PrsCfgInv buf len ps st' := by
  simp only [PrsCfgState.stored, Prod.mk.injEq] at he
  obtain ⟨h1, h2, h3, h4, h5⟩ := he
  exact ⟨h1 ▸ h.length_codecInfo, h2 ▸ h.length_protectInfo, h5 ▸ h.protectOffset_le,
    h4 ▸ h5 ▸ h.three_mul_numProtect_le, h2 ▸ h4 ▸ h5 ▸ h.protect, h1 ▸ h3 ▸ h.codec⟩

/-- An element walked without storing anything keeps the invariant, unless it is a codec
element, which always stores. -/
theorem PrsCfgInv.snoc {st st' : PrsCfgState} {p : Nat} (h : PrsCfgInv buf len ps st)
    (he : st'.stored = st.stored) (hcat : buf.getD p 0 ≠ avdtCatCodec) :
    PrsCfgInv buf len (ps ++ [p]) st' := by
  have h' := h.of_stored he
  obtain ⟨hs, sub, count, entries⟩ := h'.protect
  refine ⟨h'.length_codecInfo, h'.length_protectInfo, h'.protectOffset_le,
    h'.three_mul_numProtect_le, ⟨hs, sub.trans (catPositions_sublist_append _ p), count, entries⟩,
    ?_⟩
  rw [catPositions_append_of_ne hcat]
  exact h'.codec

theorem prsCfgRecov_stored (st : PrsCfgState) : (prsCfgRecov buf len st).stored = st.stored := by
  unfold prsCfgRecov
  split_ifs <;> rfl

theorem prsCfgHdrcmp_stored (st : PrsCfgState) :
    (prsCfgHdrcmp buf len st).stored = st.stored := by
  unfold prsCfgHdrcmp
  split_ifs <;> rfl

/-- The value bytes of an element inside the buffer, after its length byte. -/
theorem readBytes_header (hbuf : len ≤ buf.length) {i m : Nat} (hm : i + 2 + m ≤ len) :
    readBytes buf (i + 1) (m + 1) = buf.getD (i + 1) 0 :: readBytes buf (i + 2) m :=
  readBytes_succ (by omega)

/-- A `uint8_t` below 255 goes up by one without wrapping. -/
theorem toNat_add_one_of_lt {n : UInt8} (h : n.toNat < 255) : (n + 1).toNat = n.toNat + 1 := by
  rw [UInt8.toNat_add]
  simp only [UInt8.toNat_one]
  omega

/-- **A content protection element** keeps the invariant: stored, it is one more entry,
the last walked; skipped or refused, nothing changes. -/
theorem prsCfgInv_prsCfgProtect (hbuf : len ≤ buf.length) {st : PrsCfgState}
    (hinv : PrsCfgInv buf len ps st) {i : Nat} (hi : st.pos = i + 2)
    (hcat : buf.getD i 0 = avdtCatProtect) (hL : 2 ≤ (buf.getD (i + 1) 0).toNat) :
    PrsCfgInv buf len (ps ++ [i]) (prsCfgProtect buf len (buf.getD (i + 1) 0) st) := by
  have notCodec : buf.getD i 0 ≠ avdtCatCodec := by rw [hcat]; decide
  unfold prsCfgProtect
  dsimp only
  split_ifs with hend hfit
  · exact hinv.snoc rfl notCodec
  · -- the element fits: one more entry, at `protect_offset`
    obtain ⟨hs, sub, hlen, hmem, htake⟩ := hinv.protect
    have hinside : i + 2 + (buf.getD (i + 1) 0).toNat ≤ len := by omega
    have hbytes : (readBytes buf st.pos (buf.getD (i + 1) 0).toNat).length =
        (buf.getD (i + 1) 0).toNat := length_readBytes (by omega)
    have hfit' : st.protectOffset + 1 + (readBytes buf st.pos (buf.getD (i + 1) 0).toNat).length ≤
        st.cfg.protectInfo.length := by
      rw [hbytes, hinv.length_protectInfo]
      unfold avdtProtectSize at hfit ⊢
      omega
    have hsucc : (st.cfg.numProtect + 1).toNat = st.cfg.numProtect.toNat + 1 := by
      have := hinv.three_mul_numProtect_le
      have := hinv.protectOffset_le
      unfold avdtProtectSize at *
      exact toNat_add_one_of_lt (by omega)
    refine ⟨hinv.length_codecInfo, ?_, ?_, ?_, ?_, ?_⟩
    · rw [length_memcpy (by simpa using hfit'), List.length_set, hinv.length_protectInfo]
    · show st.protectOffset + 1 + (buf.getD (i + 1) 0).toNat ≤ avdtProtectSize
      unfold avdtProtectSize at hfit ⊢
      omega
    · show 3 * (st.cfg.numProtect + 1).toNat ≤ st.protectOffset + 1 + (buf.getD (i + 1) 0).toNat
      have := hinv.three_mul_numProtect_le
      omega
    · refine ⟨hs ++ [i], ?_, by simp [hlen, hsucc], ?_, ?_⟩
      · rw [catPositions_append_of_eq hcat]
        exact sub.append (List.Sublist.refl [i])
      · intro j hj
        rcases List.mem_append.mp hj with hj | hj
        · exact hmem j hj
        · rw [List.mem_singleton.mp hj]
          exact ⟨hL, hinside⟩
      · have h := take_memcpy_set (a := buf.getD (i + 1) 0) hfit'
        rw [hbytes] at h
        show (memcpy _ _ _).take (st.protectOffset + 1 + (buf.getD (i + 1) 0).toNat) = _
        rw [h, htake, List.flatMap_append, List.flatMap_singleton, protectEntry,
          readBytes_header hbuf hinside, hi]
    · rw [catPositions_append_of_ne notCodec]
      exact hinv.codec
  · exact hinv.snoc rfl notCodec

/-- **A codec element** that passes the end check keeps the invariant: the stored
information is the element's length byte and the bytes copied, and it is the last codec
element walked. -/
theorem prsCfgInv_prsCfgCodec (hbuf : len ≤ buf.length) {st : PrsCfgState}
    (hinv : PrsCfgInv buf len ps st) {i : Nat} (hi : st.pos = i + 2)
    (hcat : buf.getD i 0 = avdtCatCodec) (hL : 2 ≤ (buf.getD (i + 1) 0).toNat)
    (herr : (prsCfgCodec buf len (buf.getD (i + 1) 0) st).err = 0) :
    PrsCfgInv buf len (ps ++ [i]) (prsCfgCodec buf len (buf.getD (i + 1) 0) st) := by
  have notProtect : buf.getD i 0 ≠ avdtCatProtect := by rw [hcat]; decide
  unfold prsCfgCodec at herr ⊢
  dsimp only at herr ⊢
  -- the number of bytes copied
  have htmp : (if (buf.getD (i + 1) 0).toNat ≥ avdtCodecSize then avdtCodecSize - 1
      else (buf.getD (i + 1) 0).toNat) = min (buf.getD (i + 1) 0).toNat (avdtCodecSize - 1) := by
    unfold avdtCodecSize
    split_ifs <;> omega
  have hm : min (buf.getD (i + 1) 0).toNat (avdtCodecSize - 1) ≤ avdtCodecSize - 1 :=
    Nat.min_le_right ..
  rw [htmp] at herr ⊢
  split_ifs at herr ⊢ with hend
  · exact absurd herr (show avdtErrLength ≠ 0 by decide)
  · have hinside : i + 2 + min (buf.getD (i + 1) 0).toNat (avdtCodecSize - 1) ≤ len := by omega
    have hbytes : (readBytes buf st.pos (min (buf.getD (i + 1) 0).toNat (avdtCodecSize - 1))).length =
        min (buf.getD (i + 1) 0).toNat (avdtCodecSize - 1) := length_readBytes (by omega)
    have hfit : 0 + 1 + (readBytes buf st.pos
        (min (buf.getD (i + 1) 0).toNat (avdtCodecSize - 1))).length ≤ st.cfg.codecInfo.length := by
      rw [hbytes, hinv.length_codecInfo]
      unfold avdtCodecSize at hm ⊢
      omega
    obtain ⟨hs, sub, hlen, entries⟩ := hinv.protect
    refine ⟨?_, hinv.length_protectInfo, hinv.protectOffset_le, hinv.three_mul_numProtect_le,
      ⟨hs, sub.trans (catPositions_sublist_append _ i), hlen, entries⟩,
      fun _ => ⟨i, by rw [catPositions_append_of_eq hcat, List.getLast?_concat], hL, hinside, ?_⟩⟩
    · rw [length_memcpy (by simpa using hfit), List.length_set, hinv.length_codecInfo]
    · have h := take_memcpy_set (a := buf.getD (i + 1) 0) hfit
      rw [hbytes, Nat.zero_add, Nat.add_comm 1, List.take_zero, List.nil_append] at h
      show (memcpy _ _ _).take _ = _
      rw [h, readBytes_header hbuf hinside, hi]

/-- **One round without an error walks one more element and keeps the invariant.** -/
theorem prsCfgInv_avdtMsgPrsCfgBody (hbuf : len ≤ buf.length) (sigId : UInt8)
    {st : PrsCfgState} (hinv : PrsCfgInv buf len ps st)
    (herr : (avdtMsgPrsCfgBody buf len sigId st).err = 0) :
    PrsCfgInv buf len (ps ++ [st.pos]) (avdtMsgPrsCfgBody buf len sigId st) := by
  unfold avdtMsgPrsCfgBody at herr ⊢
  by_cases hshort : len - st.pos < avdtLenCfgMin
  · rw [if_pos hshort] at herr
    exact absurd herr (show avdtErrPayload ≠ 0 by decide)
  rw [if_neg hshort] at herr ⊢
  dsimp only at herr ⊢
  -- the header and the category bit leave what is stored alone
  have hhdr : ∀ elem (psc : UInt16), PrsCfgInv buf len ps
      { st with pos := st.pos + 2, elem, cfg := { st.cfg with pscMask := psc } } :=
    fun _ _ => hinv.of_stored rfl
  split_ifs at herr ⊢ with h0 h1 h2 hrecov hprot hhdr' hcodec hdelay
  · exact absurd herr (show avdtErrCategory ≠ 0 by decide)
  · -- a category too new for the parser, skipped
    refine hinv.snoc rfl fun hc => ?_
    rw [hc] at h0
    exact absurd h0 (by decide)
  · exact absurd herr (avdtMsgIeErr_ne_zero (not_or.mp h0).1 (not_or.mp h0).2)
  · exact (hhdr _ _).snoc (prsCfgRecov_stored _) (by rw [hrecov]; decide)
  · -- content protection: its length passed `AVDT_LEN_PROTECT_MIN`
    have hmin : avdtMsgIeLenMin.getD avdtCatProtect.toNat 0 = 2 := rfl
    rw [hprot, hmin] at h2
    exact prsCfgInv_prsCfgProtect hbuf (hhdr _ _) rfl hprot (by omega)
  · exact (hhdr _ _).snoc (prsCfgHdrcmp_stored _) (by rw [hhdr']; decide)
  · -- the codec: its length passed `AVDT_LEN_CODEC_MIN`
    have hmin : avdtMsgIeLenMin.getD avdtCatCodec.toNat 0 = 2 := rfl
    rw [hcodec, hmin] at h2
    exact prsCfgInv_prsCfgCodec hbuf (hhdr _ _) rfl hcodec (by omega) herr
  · exact hinv.snoc rfl (by rw [hdelay]; decide)
  · exact hinv.snoc rfl hcodec

/-- A round that sets the error stores nothing. -/
theorem avdtMsgPrsCfgBody_stored_of_err (sigId : UInt8) {st : PrsCfgState} (hst : st.err = 0)
    (herr : (avdtMsgPrsCfgBody buf len sigId st).err ≠ 0) :
    (avdtMsgPrsCfgBody buf len sigId st).stored = st.stored := by
  unfold avdtMsgPrsCfgBody at herr ⊢
  by_cases hshort : len - st.pos < avdtLenCfgMin
  · rw [if_pos hshort]
    rfl
  rw [if_neg hshort] at herr ⊢
  dsimp only at herr ⊢
  -- the branches that store leave the error as it was
  split_ifs at herr ⊢
  all_goals first
    | rfl
    | exact absurd hst herr
    | exact prsCfgRecov_stored _
    | exact prsCfgHdrcmp_stored _
    | skip
  · unfold prsCfgProtect at herr ⊢
    dsimp only at herr ⊢
    split_ifs at herr ⊢
    all_goals first | rfl | exact absurd hst herr
  · unfold prsCfgCodec at herr ⊢
    dsimp only at herr ⊢
    split_ifs at herr ⊢
    all_goals first | rfl | exact absurd hst herr

theorem prsCfgInv_initial {cfg : AvdtpSepConfig} (hc : cfg.codecInfo.length = avdtCodecSize)
    (hp : cfg.protectInfo.length = avdtProtectSize) :
    PrsCfgInv buf len [] ⟨0, 0, 0, { cfg with pscMask := 0, numCodec := 0, numProtect := 0 }, 0⟩ :=
  ⟨hc, hp, Nat.zero_le _, le_refl _, ⟨[], List.Sublist.slnil, rfl, by simp, by simp⟩,
    fun h => absurd rfl h⟩

end Stored

/-! ## §5 — what is accepted is a sequence of elements -/

section Accepted

/-- The length check of `avdt_msg_prs_cfg` on an element header: a category too new for
the parser, or a length within `avdt_msg_ie_len_min` and `_max` of its category. -/
def ElemLenOk (elem elemLen : UInt8) : Prop :=
  elem = 0 ∨ avdtCatMaxCur < elem ∨
    avdtMsgIeLenMin.getD elem.toNat 0 ≤ elemLen.toNat ∧
      elemLen.toNat ≤ avdtMsgIeLenMax.getD elem.toNat 0

/-- The elements walked, at the offsets `ps`, up to offset `p`: from the start, each with
its header inside the first `len` bytes and an accepted length, the next one starting right
after the declared value. -/
inductive Elements (buf : List UInt8) (len : Nat) : List Nat → Nat → Prop
  | nil : Elements buf len [] 0
  | cons {ps : List Nat} {p : Nat} : Elements buf len ps p → p + 2 ≤ len →
      ElemLenOk (buf.getD p 0) (buf.getD (p + 1) 0) →
      Elements buf len (ps ++ [p]) (p + 2 + (buf.getD (p + 1) 0).toNat)

variable {buf : List UInt8} {pEnd : Nat} {st : PrsCfgState}

theorem pos_prsCfgRecov (h : (prsCfgRecov buf pEnd st).err = 0) :
    (prsCfgRecov buf pEnd st).pos = st.pos + 3 := by
  unfold prsCfgRecov at h ⊢
  split_ifs at h ⊢
  · exact absurd h (show avdtErrPayload ≠ 0 by decide)
  · rfl

theorem pos_prsCfgProtect {elemLen : UInt8} (h : (prsCfgProtect buf pEnd elemLen st).err = 0) :
    (prsCfgProtect buf pEnd elemLen st).pos = st.pos + elemLen.toNat := by
  unfold prsCfgProtect at h ⊢
  dsimp only at h ⊢
  split_ifs at h ⊢
  · exact absurd h (show avdtErrLength ≠ 0 by decide)
  all_goals rfl

theorem pos_prsCfgHdrcmp (h : (prsCfgHdrcmp buf pEnd st).err = 0) :
    (prsCfgHdrcmp buf pEnd st).pos = st.pos + 1 := by
  unfold prsCfgHdrcmp at h ⊢
  split_ifs at h ⊢
  · exact absurd h (show avdtErrPayload ≠ 0 by decide)
  · rfl

theorem pos_prsCfgCodec {elemLen : UInt8} (h : (prsCfgCodec buf pEnd elemLen st).err = 0) :
    (prsCfgCodec buf pEnd elemLen st).pos = st.pos + elemLen.toNat := by
  unfold prsCfgCodec at h ⊢
  dsimp only at h ⊢
  -- the cap on the copy splits too; both ways a failed check sets the error
  split_ifs at h ⊢
  all_goals first
    | exact absurd h (show avdtErrLength ≠ 0 by decide)
    | rfl

/-- **A round that leaves no error walked one element**: its header was inside the
buffer, its length passed the check, and `p` is now right after its declared value. -/
theorem avdtMsgPrsCfgBody_of_err_eq_zero (sigId : UInt8)
    (h : (avdtMsgPrsCfgBody buf pEnd sigId st).err = 0) :
    st.pos + 2 ≤ pEnd ∧ ElemLenOk (buf.getD st.pos 0) (buf.getD (st.pos + 1) 0) ∧
      (avdtMsgPrsCfgBody buf pEnd sigId st).pos =
        st.pos + 2 + (buf.getD (st.pos + 1) 0).toNat := by
  unfold avdtMsgPrsCfgBody at h ⊢
  by_cases hshort : pEnd - st.pos < avdtLenCfgMin
  · rw [if_pos hshort] at h
    exact absurd h (show avdtErrPayload ≠ 0 by decide)
  rw [if_neg hshort] at h ⊢
  refine ⟨by unfold avdtLenCfgMin at hshort; omega, ?_⟩
  dsimp only at h ⊢
  by_cases hcat : buf.getD st.pos 0 = 0 ∨ buf.getD st.pos 0 > avdtCatMaxCur
  · -- a category too new for the parser: skipped unless the signal is a configuration
    rw [if_pos hcat] at h ⊢
    refine ⟨hcat.imp_right Or.inl, ?_⟩
    split_ifs at h ⊢
    · exact absurd h (show avdtErrCategory ≠ 0 by decide)
    · rfl
  rw [if_neg hcat] at h ⊢
  have hknown := not_or.mp hcat
  by_cases hlen : (buf.getD (st.pos + 1) 0).toNat > avdtMsgIeLenMax.getD (buf.getD st.pos 0).toNat 0 ∨
      (buf.getD (st.pos + 1) 0).toNat < avdtMsgIeLenMin.getD (buf.getD st.pos 0).toNat 0
  · rw [if_pos hlen] at h
    exact absurd h (avdtMsgIeErr_ne_zero hknown.1 hknown.2)
  rw [if_neg hlen] at h ⊢
  have hok : avdtMsgIeLenMin.getD (buf.getD st.pos 0).toNat 0 ≤ (buf.getD (st.pos + 1) 0).toNat ∧
      (buf.getD (st.pos + 1) 0).toNat ≤ avdtMsgIeLenMax.getD (buf.getD st.pos 0).toNat 0 := by
    omega
  refine ⟨.inr (.inr hok), ?_⟩
  -- the switch: the fixed-length cases read exactly the length the tables allow
  split_ifs at h ⊢ with hrecov hprot hhdr hcodec hdelay
  · rw [pos_prsCfgRecov h]
    rw [hrecov] at hok
    have : avdtMsgIeLenMin.getD avdtCatRecov.toNat 0 = 3 := rfl
    have : avdtMsgIeLenMax.getD avdtCatRecov.toNat 0 = 3 := rfl
    dsimp only
    omega
  · rw [pos_prsCfgProtect h]
  · rw [pos_prsCfgHdrcmp h]
    rw [hhdr] at hok
    have : avdtMsgIeLenMin.getD avdtCatHdrcmp.toNat 0 = 1 := rfl
    have : avdtMsgIeLenMax.getD avdtCatHdrcmp.toNat 0 = 1 := rfl
    dsimp only
    omega
  · rw [pos_prsCfgCodec h]
  · rw [hdelay] at hok
    have : avdtMsgIeLenMax.getD avdtCatDelayRpt.toNat 0 = 0 := rfl
    dsimp only
    omega
  · rfl

/-- **What `avdt_msg_prs_cfg` accepts**: when it returns 0, the first `len` bytes are a
sequence of elements, each header inside them and each length accepted for its category.
The last element may declare bytes past the end. -/
theorem avdtMsgPrsCfg_elements {cfg cfg' : AvdtpSepConfig} {len : Nat} {sigId elem : UInt8}
    (h : avdtMsgPrsCfg cfg buf len sigId = some (0, elem, cfg')) :
    ∃ ps q, len ≤ q ∧ Elements buf len ps q := by
  -- the invariant: while no error is set, `p` is where the elements walked end
  obtain ⟨t, ⟨ps, ht⟩, hstop, hres⟩ := Loop.whileLoop_spec
    (fun st : PrsCfgState => ∃ ps, st.err = 0 → Elements buf len ps st.pos)
    (fun s hc ⟨ps, hs⟩ => ⟨ps ++ [s.pos], fun he => by
      obtain ⟨hin, hok, hpos⟩ := avdtMsgPrsCfgBody_of_err_eq_zero sigId he
      rw [hpos]
      exact (hs hc.2).cons hin hok⟩)
    ⟨[], fun _ => Elements.nil⟩ h
  simp only [Prod.mk.injEq] at hres
  have herr : t.err = 0 := hres.1
  exact ⟨ps, t.pos, Nat.le_of_not_lt fun hlt => hstop ⟨hlt, herr⟩, ht herr⟩

/-- The loop invariant of the whole parse: the rounds without an error walked the elements
at `ps`, up to `p` while no error is set, and what is stored came from them. -/
def WalkInv (buf : List UInt8) (len : Nat) (st : PrsCfgState) : Prop :=
  ∃ ps q, Elements buf len ps q ∧ (st.err = 0 → q = st.pos) ∧ PrsCfgInv buf len ps st

/-- **One round keeps the invariant**: a round without an error walks its element; one that
sets the error stores nothing. -/
theorem walkInv_avdtMsgPrsCfgBody {len : Nat} (hbuf : len ≤ buf.length) (sigId : UInt8)
    (hst : st.err = 0) (hinv : WalkInv buf len st) :
    WalkInv buf len (avdtMsgPrsCfgBody buf len sigId st) := by
  obtain ⟨ps, q, walked, hq, stored⟩ := hinv
  by_cases herr : (avdtMsgPrsCfgBody buf len sigId st).err = 0
  · obtain ⟨hin, hok, hpos⟩ := avdtMsgPrsCfgBody_of_err_eq_zero sigId herr
    refine ⟨ps ++ [st.pos], _, (hq hst ▸ walked).cons hin hok, fun _ => hpos.symm, ?_⟩
    exact prsCfgInv_avdtMsgPrsCfgBody hbuf sigId stored herr
  · exact ⟨ps, q, walked, fun h => absurd h herr,
      stored.of_stored (avdtMsgPrsCfgBody_stored_of_err sigId hst herr)⟩

/-- **What `avdt_msg_prs_cfg` stores**, whatever it returns, for a buffer holding its `len`
bytes: the arrays keep their sizes, and the parse walked a sequence of elements, all of the
first `len` bytes when it returns 0, from which what it stored came. A parsed codec's
information is the length byte and copied bytes of the last codec element walked, and
`protect_info` starts with `num_protect` copies, in order, of walked content protection
elements, ending inside the array. -/
theorem avdtMsgPrsCfg_stored {len : Nat} (hbuf : len ≤ buf.length) {cfg cfg' : AvdtpSepConfig}
    (hc : cfg.codecInfo.length = avdtCodecSize) (hp : cfg.protectInfo.length = avdtProtectSize)
    {sigId err elem : UInt8} (h : avdtMsgPrsCfg cfg buf len sigId = some (err, elem, cfg')) :
    cfg'.codecInfo.length = avdtCodecSize ∧ cfg'.protectInfo.length = avdtProtectSize ∧
      ∃ ps q, Elements buf len ps q ∧ (err = 0 → len ≤ q) ∧
        (cfg'.numCodec ≠ 0 → ∃ i, (catPositions buf avdtCatCodec ps).getLast? = some i ∧
          CodecFromBuffer buf len i cfg'.codecInfo) ∧
        ∃ hs, hs.Sublist (catPositions buf avdtCatProtect ps) ∧
          hs.length = cfg'.numProtect.toNat ∧
          ∃ off ≤ avdtProtectSize, ProtectEntries buf len hs cfg'.protectInfo off := by
  obtain ⟨t, ⟨ps, q, walked, hq, hinv⟩, hstop, ht⟩ := Loop.whileLoop_spec (WalkInv buf len)
    (fun _ hc hs => walkInv_avdtMsgPrsCfgBody hbuf sigId hc.2 hs)
    ⟨[], 0, .nil, fun _ => rfl, prsCfgInv_initial hc hp⟩ h
  simp only [Prod.mk.injEq] at ht
  obtain ⟨rfl, -, rfl⟩ := ht
  obtain ⟨hs, sub, count, entries⟩ := hinv.protect
  refine ⟨hinv.length_codecInfo, hinv.length_protectInfo, ps, q, walked, fun herr => ?_,
    hinv.codec, hs, sub, count, t.protectOffset, hinv.protectOffset_le, entries⟩
  -- the loop stopped with no error set, so `p` reached the end
  rw [hq herr]
  exact Nat.le_of_not_lt fun hlt => hstop ⟨hlt, herr⟩

end Accepted

/-! ## §6 — one round per element `avdt_msg_bld_cfg` writes -/

section Elements

variable {buf : List UInt8} {len : Nat} {sigId : UInt8} {st : PrsCfgState}
  {cat L : UInt8} {value rest : List UInt8}

/-- The value of an element at `p`, as the copy reads it. -/
theorem readBytes_of_drop_eq {p : Nat} (h : buf.drop p = cat :: L :: (value ++ rest)) :
    readBytes buf (p + 2) value.length = value := by
  rw [readBytes, ← List.drop_drop, h]
  simp

/-- The header of an element at `p`. -/
theorem header_of_drop_eq {p : Nat} {r : List UInt8} (h : buf.drop p = cat :: L :: r) :
    buf.getD p 0 = cat ∧ buf.getD (p + 1) 0 = L :=
  ⟨getD_of_drop_eq_cons h, getD_of_drop_eq_cons (drop_succ_of_drop_eq_cons h)⟩

/-- What a round does on an element of length zero: the category's bit is set. -/
def emptyElemStep (cat : UInt8) (st : PrsCfgState) : PrsCfgState :=
  { st with pos := st.pos + 2, elem := cat,
            cfg := { st.cfg with pscMask := st.cfg.pscMask ||| 1 <<< cat.toUInt16 } }

/-- What a round does on a codec element that fits: length and value stored, one more
codec. -/
def codecElemStep (L : UInt8) (value : List UInt8) (st : PrsCfgState) : PrsCfgState :=
  { st with pos := st.pos + 2 + L.toNat, elem := avdtCatCodec,
            cfg := { st.cfg with
              pscMask := (st.cfg.pscMask ||| 1 <<< avdtCatCodec.toUInt16) &&& ~~~avdtPscCodec,
              numCodec := st.cfg.numCodec + 1,
              codecInfo := memcpy (st.cfg.codecInfo.set 0 L) 1 value } }

/-- What a round does on a content protection element that fits: one more entry. -/
def protectElemStep (L : UInt8) (value : List UInt8) (st : PrsCfgState) : PrsCfgState :=
  { st with pos := st.pos + 2 + L.toNat, elem := avdtCatProtect,
            protectOffset := st.protectOffset + 1 + L.toNat,
            cfg := { st.cfg with
              pscMask := (st.cfg.pscMask ||| 1 <<< avdtCatProtect.toUInt16) &&& ~~~avdtPscProtect,
              numProtect := st.cfg.numProtect + 1,
              protectInfo := memcpy (st.cfg.protectInfo.set st.protectOffset L)
                (st.protectOffset + 1) value } }

/-- **A media transport, reporting or delay reporting element** of length zero: the
category's bit is set and nothing else read. -/
theorem avdtMsgPrsCfgBody_empty
    (hcat : cat = avdtCatTrans ∨ cat = avdtCatReport ∨ cat = avdtCatDelayRpt)
    (hdrop : buf.drop st.pos = cat :: 0 :: rest) (hlen : st.pos + 2 ≤ len) :
    avdtMsgPrsCfgBody buf len sigId st = emptyElemStep cat st := by
  obtain ⟨h0, h1⟩ := header_of_drop_eq hdrop
  unfold avdtMsgPrsCfgBody
  rw [if_neg (by unfold avdtLenCfgMin; omega)]
  dsimp only
  rw [h0, h1]
  rcases hcat with rfl | rfl | rfl <;> rfl

/-- **A codec element** of `2 ≤ L < AVDT_CODEC_SIZE` bytes inside the buffer: its length
and value are stored and the codec counted. -/
theorem avdtMsgPrsCfgBody_codec (hdrop : buf.drop st.pos = avdtCatCodec :: L :: (value ++ rest))
    (hval : value.length = L.toNat) (hL : 2 ≤ L.toNat ∧ L.toNat ≤ avdtCodecSize - 1)
    (hlen : st.pos + 2 + L.toNat ≤ len) :
    avdtMsgPrsCfgBody buf len sigId st = codecElemStep L value st := by
  obtain ⟨h0, h1⟩ := header_of_drop_eq hdrop
  have hread := readBytes_of_drop_eq hdrop
  rw [hval] at hread
  unfold avdtMsgPrsCfgBody
  rw [if_neg (by unfold avdtLenCfgMin; omega)]
  dsimp only
  rw [h0, h1]
  have hmax : avdtMsgIeLenMax.getD avdtCatCodec.toNat 0 = 255 := rfl
  have hmin : avdtMsgIeLenMin.getD avdtCatCodec.toNat 0 = 2 := rfl
  have hL255 : L.toNat < 256 := L.toNat_lt
  rw [if_neg (by decide), if_neg (by rw [hmax, hmin]; omega),
    if_neg (by decide), if_neg (by decide), if_neg (by decide), if_pos rfl]
  unfold prsCfgCodec
  dsimp only
  unfold avdtCodecSize at hL
  rw [if_neg (show ¬ L.toNat ≥ avdtCodecSize by unfold avdtCodecSize; omega),
    if_neg (show ¬ st.pos + 2 + L.toNat > len by omega), hread]
  rfl

/-- **A content protection element** of at least `AVDT_LEN_PROTECT_MIN` bytes inside the
buffer, that fits after the entries already stored: it is stored as one more entry. -/
theorem avdtMsgPrsCfgBody_protect
    (hdrop : buf.drop st.pos = avdtCatProtect :: L :: (value ++ rest))
    (hval : value.length = L.toNat) (hL : 2 ≤ L.toNat)
    (hfit : L.toNat + st.protectOffset < avdtProtectSize) (hlen : st.pos + 2 + L.toNat ≤ len) :
    avdtMsgPrsCfgBody buf len sigId st = protectElemStep L value st := by
  obtain ⟨h0, h1⟩ := header_of_drop_eq hdrop
  have hread := readBytes_of_drop_eq hdrop
  rw [hval] at hread
  unfold avdtMsgPrsCfgBody
  rw [if_neg (by unfold avdtLenCfgMin; omega)]
  dsimp only
  rw [h0, h1]
  have hmax : avdtMsgIeLenMax.getD avdtCatProtect.toNat 0 = 255 := rfl
  have hmin : avdtMsgIeLenMin.getD avdtCatProtect.toNat 0 = 2 := rfl
  have hL255 : L.toNat < 256 := L.toNat_lt
  rw [if_neg (by decide), if_neg (by rw [hmax, hmin]; omega),
    if_neg (by decide), if_pos rfl]
  unfold prsCfgProtect
  dsimp only
  rw [if_neg (by omega), if_pos hfit, hread]
  rfl

end Elements

/-! ## §7 — the round trip -/

section RoundTrip

variable {buf : List UInt8} {len : Nat} {sigId : UInt8} {st : PrsCfgState} {rest : List UInt8}

theorem runs_emptyElem {b : Prop} [Decidable b] {cat : UInt8}
    (hcat : cat = avdtCatTrans ∨ cat = avdtCatReport ∨ cat = avdtCatDelayRpt) (herr : st.err = 0)
    (hdrop : b → buf.drop st.pos = cat :: 0 :: rest) (hlen : b → st.pos + 2 ≤ len) :
    Loop.Runs (PrsCfgCont len) (avdtMsgPrsCfgBody buf len sigId) (if b then 1 else 0) st
      (if b then emptyElemStep cat st else st) :=
  Loop.Runs.optional fun hb =>
    ⟨⟨by have := hlen hb; omega, herr⟩, avdtMsgPrsCfgBody_empty hcat (hdrop hb) (hlen hb)⟩

theorem runs_protectElem {b : Prop} [Decidable b] {L : UInt8} {value : List UInt8}
    (herr : st.err = 0) (hdrop : b → buf.drop st.pos = avdtCatProtect :: L :: (value ++ rest))
    (hval : b → value.length = L.toNat) (hL : b → 2 ≤ L.toNat)
    (hfit : b → L.toNat + st.protectOffset < avdtProtectSize)
    (hlen : b → st.pos + 2 + L.toNat ≤ len) :
    Loop.Runs (PrsCfgCont len) (avdtMsgPrsCfgBody buf len sigId) (if b then 1 else 0) st
      (if b then protectElemStep L value st else st) :=
  Loop.Runs.optional fun hb =>
    ⟨⟨by have := hlen hb; omega, herr⟩,
      avdtMsgPrsCfgBody_protect (hdrop hb) (hval hb) (hL hb) (hfit hb) (hlen hb)⟩

/-- A zero-length element that the builder writes only under `b`: the parse takes its round, or
none, and then stands after it with no error. -/
theorem runs_optionalEmpty (sigId : UInt8) {b : Prop} [Decidable b] {cat : UInt8}
    (hcat : cat = avdtCatTrans ∨ cat = avdtCatReport ∨ cat = avdtCatDelayRpt) (herr : st.err = 0)
    (hdrop : buf.drop st.pos = (if b then [cat, 0] else []) ++ rest) :
    Loop.Runs (PrsCfgCont buf.length) (avdtMsgPrsCfgBody buf buf.length sigId)
        (if b then 1 else 0) st (if b then emptyElemStep cat st else st) ∧
      buf.drop (if b then emptyElemStep cat st else st).pos = rest ∧
      (if b then emptyElemStep cat st else st).err = 0 := by
  have hcons : b → buf.drop st.pos = cat :: 0 :: rest := fun hb => by
    rw [hdrop, if_pos hb]
    rfl
  refine ⟨runs_emptyElem hcat herr hcons fun hb => add_two_le_of_drop_eq_cons (hcons hb), ?_, ?_⟩
  · have after := drop_add_of_drop_eq hdrop
    by_cases hb : b
    · rw [if_pos hb] at after ⊢
      exact after
    · rw [if_neg hb] at after ⊢
      exact after
  · split <;> exact herr

/-- The codec element the builder writes: the parse takes its round and then stands after it
with no error. -/
theorem runs_codecElem (sigId : UInt8) {L : UInt8} {value : List UInt8} (herr : st.err = 0)
    (hval : value.length = L.toNat) (hL : 2 ≤ L.toNat ∧ L.toNat ≤ avdtCodecSize - 1)
    (hdrop : buf.drop st.pos = (avdtCatCodec :: L :: value) ++ rest) :
    Loop.Runs (PrsCfgCont buf.length) (avdtMsgPrsCfgBody buf buf.length sigId) 1 st
        (codecElemStep L value st) ∧
      buf.drop (codecElemStep L value st).pos = rest ∧ (codecElemStep L value st).err = 0 := by
  have hlen : st.pos + 2 + L.toNat ≤ buf.length := by
    have := le_length_of_drop_eq hdrop (List.cons_ne_nil _ _)
    simp only [List.length_cons, hval] at this
    omega
  refine ⟨?_, ?_, herr⟩
  · rw [← avdtMsgPrsCfgBody_codec hdrop hval hL hlen]
    exact .single ⟨by omega, herr⟩
  · have pos : st.pos + (avdtCatCodec :: L :: value).length = (codecElemStep L value st).pos := by
      simp only [codecElemStep, List.length_cons, hval]
      omega
    rw [← pos]
    exact drop_add_of_drop_eq hdrop

/-- A content protection element that the builder writes only under `b`: the parse takes its
round, or none, and then stands after it with no error. -/
theorem runs_optionalProtect (sigId : UInt8) {b : Prop} [Decidable b] {L : UInt8}
    {value : List UInt8} (herr : st.err = 0) (hval : b → value.length = L.toNat)
    (hL : b → 2 ≤ L.toNat) (hfit : b → L.toNat + st.protectOffset < avdtProtectSize)
    (hdrop : buf.drop st.pos = (if b then avdtCatProtect :: L :: value else []) ++ rest) :
    Loop.Runs (PrsCfgCont buf.length) (avdtMsgPrsCfgBody buf buf.length sigId)
        (if b then 1 else 0) st (if b then protectElemStep L value st else st) ∧
      buf.drop (if b then protectElemStep L value st else st).pos = rest ∧
      (if b then protectElemStep L value st else st).err = 0 := by
  have hcons : b → buf.drop st.pos = avdtCatProtect :: L :: (value ++ rest) := fun hb => by
    rw [hdrop, if_pos hb]
    rfl
  have hlen : b → st.pos + 2 + L.toNat ≤ buf.length := fun hb => by
    have := le_length_of_drop_eq (S := avdtCatProtect :: L :: value) (hcons hb)
      (List.cons_ne_nil _ _)
    simp only [List.length_cons, hval hb] at this
    omega
  refine ⟨runs_protectElem herr hcons hval hL hfit hlen, ?_, ?_⟩
  · have after := drop_add_of_drop_eq hdrop
    by_cases hb : b
    · have pos : st.pos + (avdtCatProtect :: L :: value).length =
          (protectElemStep L value st).pos := by
        simp only [protectElemStep, List.length_cons, hval hb]
        omega
      rw [if_pos hb, pos] at after
      rw [if_pos hb]
      exact after
    · rw [if_neg hb] at after ⊢
      exact after
  · split <;> exact herr

/-- `psc_mask` within `{TRANS, REPORT, DELAY_RPT}` is one of their eight unions. -/
theorem pscMask_mem_of_within {m : UInt16}
    (h : m &&& ~~~(avdtPscTrans ||| avdtPscReport ||| avdtPscDelayRpt) = 0) :
    m ∈ ([0, 2, 4, 6, 256, 258, 260, 262] : List UInt16) := by
  have hn : m.toNat &&& 65273 = 0 := by
    have := congrArg UInt16.toNat h
    simpa [avdtPscTrans, avdtPscReport, avdtPscDelayRpt] using this
  have hlt : m.toNat < 2 ^ 16 := m.toNat_lt
  -- the bits outside the three are clear, so `m` is its own restriction to them
  have hk : m.toNat = m.toNat &&& 262 := by
    apply Nat.eq_of_testBit_eq
    intro i
    have h1 := congrArg (fun n => n.testBit i) hn
    simp only [Nat.testBit_and, Nat.zero_testBit, Bool.and_eq_false_iff] at h1
    rw [Nat.testBit_and]
    by_cases hi : i < 16
    · cases hb : m.toNat.testBit i
      · rfl
      · rcases h1 with h1 | h1
        · simp [hb] at h1
        · interval_cases i <;> revert h1 <;> decide
    · have : m.toNat.testBit i = false := Nat.testBit_eq_false_of_lt
        (lt_of_lt_of_le hlt (Nat.pow_le_pow_right (by decide) (by omega)))
      simp [this]
  have hsmall : ∀ k, k < 263 → k &&& 262 = k →
      k ∈ ([0, 2, 4, 6, 256, 258, 260, 262] : List Nat) := by
    set_option maxRecDepth 8000 in
    decide
  have := hsmall m.toNat (by rw [hk]; exact Nat.lt_succ_of_le Nat.and_le_right) hk.symm
  simp only [List.mem_cons, List.not_mem_nil, or_false] at this
  rcases this with h | h | h | h | h | h | h | h <;> simp [← UInt16.toNat_inj, h]

/-- The first `n + 1` bytes of a list: its first byte and `n` more. -/
theorem take_succ_eq_getD_cons {l : List UInt8} (h : l ≠ []) (n : Nat) :
    l.take (n + 1) = l.getD 0 0 :: l.tail.take n := by
  obtain ⟨a, t, rfl⟩ := List.exists_cons_of_ne_nil h
  simp

/-- The builder's `uint8_t` length `L + 1`, capped, when it fits under a cap below 256. -/
theorem bld_len_eq {L : UInt8} {cap : Nat} (h : L.toNat + 1 ≤ cap) (hcap : cap ≤ 255) :
    (if (L + 1).toNat > cap then cap else (L + 1).toNat) = L.toNat + 1 := by
  rw [toNat_add_one_of_lt (by omega), if_neg (by omega)]


/-- What `avdt_msg_bld_cfg` writes, element by element, when the codec element and the protection
entry fit their arrays: each of them is its length byte and that many bytes more. -/
theorem avdtMsgBldCfg_eq_parts {c : AvdtpSepConfig} (hcodec : c.numCodec ≠ 0)
    (hL : (c.codecInfo.getD 0 0).toNat + 1 ≤ avdtCodecSize)
    (hM : c.numProtect ≠ 0 → (c.protectInfo.getD 0 0).toNat + 1 ≤ avdtProtectSize) :
    avdtMsgBldCfg c =
      (if c.pscMask &&& avdtPscTrans ≠ 0 then [avdtCatTrans, 0] else []) ++
      (if c.pscMask &&& avdtPscReport ≠ 0 then [avdtCatReport, 0] else []) ++
      (avdtCatCodec :: c.codecInfo.take ((c.codecInfo.getD 0 0).toNat + 1)) ++
      (if c.numProtect ≠ 0 then
        avdtCatProtect :: c.protectInfo.take ((c.protectInfo.getD 0 0).toNat + 1) else []) ++
      (if c.pscMask &&& avdtPscDelayRpt ≠ 0 then [avdtCatDelayRpt, 0] else []) := by
  unfold avdtMsgBldCfg
  rw [if_pos hcodec]
  dsimp only
  rw [bld_len_eq hL (by decide)]
  by_cases hnp : c.numProtect ≠ 0
  · rw [if_pos hnp, if_pos hnp, bld_len_eq (hM hnp) (by decide)]
  · rw [if_neg hnp, if_neg hnp]

/-- **The round trip.** For a configuration with categories among media transport,
reporting and delay reporting, a codec element of `2 ≤ L < AVDT_CODEC_SIZE` bytes and
at most one content protection entry of `2 ≤ M < AVDT_PROTECT_SIZE` bytes, parsing what
`avdt_msg_bld_cfg` writes succeeds and gives back the categories, the codec information
and the protection entry. -/
theorem avdtMsgPrsCfg_avdtMsgBldCfg {c cfg₀ : AvdtpSepConfig}
    (hc : c.codecInfo.length = avdtCodecSize) (hp : c.protectInfo.length = avdtProtectSize)
    (h₀c : cfg₀.codecInfo.length = avdtCodecSize) (h₀p : cfg₀.protectInfo.length = avdtProtectSize)
    (hpsc : c.pscMask &&& ~~~(avdtPscTrans ||| avdtPscReport ||| avdtPscDelayRpt) = 0)
    (hcodec : c.numCodec ≠ 0)
    (hL : 2 ≤ (c.codecInfo.getD 0 0).toNat ∧ (c.codecInfo.getD 0 0).toNat ≤ avdtCodecSize - 1)
    (hprot : c.numProtect = 0 ∨ c.numProtect = 1 ∧ 2 ≤ (c.protectInfo.getD 0 0).toNat ∧
      (c.protectInfo.getD 0 0).toNat ≤ avdtProtectSize - 1) :
    ∃ elem cfg, avdtMsgPrsCfg cfg₀ (avdtMsgBldCfg c) (avdtMsgBldCfg c).length avdtSigGetconfig =
        some (0, elem, cfg) ∧ cfg.pscMask = c.pscMask ∧
      cfg.codecInfo.take ((c.codecInfo.getD 0 0).toNat + 1) =
        c.codecInfo.take ((c.codecInfo.getD 0 0).toNat + 1) ∧
      cfg.numProtect = c.numProtect ∧
      (c.numProtect = 1 → cfg.protectInfo.take ((c.protectInfo.getD 0 0).toNat + 1) =
        c.protectInfo.take ((c.protectInfo.getD 0 0).toNat + 1)) := by
  -- the codec element and the protection entry, as the builder writes them
  set L := c.codecInfo.getD 0 0
  set M := c.protectInfo.getD 0 0
  set value := c.codecInfo.tail.take L.toNat
  set pvalue := c.protectInfo.tail.take M.toNat
  have hL' : L.toNat + 1 ≤ avdtCodecSize := by
    unfold avdtCodecSize at hL ⊢
    omega
  have hcv : c.codecInfo.take (L.toNat + 1) = L :: value :=
    take_succ_eq_getD_cons (List.ne_nil_of_length_pos (by rw [hc]; decide)) _
  have hpv : c.protectInfo.take (M.toNat + 1) = M :: pvalue :=
    take_succ_eq_getD_cons (List.ne_nil_of_length_pos (by rw [hp]; decide)) _
  have hvlen : value.length = L.toNat := by
    simp only [value, List.length_take, List.length_tail, hc]
    unfold avdtCodecSize at hL' ⊢
    omega
  have hq : c.numProtect ≠ 0 → c.numProtect = 1 ∧ 2 ≤ M.toNat ∧ M.toNat + 1 ≤ avdtProtectSize := by
    intro hq
    rcases hprot with h0 | ⟨h1, hM, hM'⟩
    · exact absurd h0 hq
    · refine ⟨h1, hM, ?_⟩
      unfold avdtProtectSize at hM' ⊢
      omega
  have hpvlen : c.numProtect ≠ 0 → pvalue.length = M.toNat := by
    intro hnp
    have := (hq hnp).2.2
    simp only [pvalue, List.length_take, List.length_tail, hp]
    unfold avdtProtectSize at this ⊢
    omega
  -- the message, element by element
  have hB : avdtMsgBldCfg c =
      (if c.pscMask &&& avdtPscTrans ≠ 0 then [avdtCatTrans, 0] else []) ++
      (if c.pscMask &&& avdtPscReport ≠ 0 then [avdtCatReport, 0] else []) ++
      (avdtCatCodec :: L :: value) ++
      (if c.numProtect ≠ 0 then avdtCatProtect :: M :: pvalue else []) ++
      (if c.pscMask &&& avdtPscDelayRpt ≠ 0 then [avdtCatDelayRpt, 0] else []) := by
    rw [avdtMsgBldCfg_eq_parts hcodec hL' fun hnp => (hq hnp).2.2, hcv, hpv]
  -- the five parts
  set S1 : List UInt8 := if c.pscMask &&& avdtPscTrans ≠ 0 then [avdtCatTrans, 0] else []
  set S2 : List UInt8 := if c.pscMask &&& avdtPscReport ≠ 0 then [avdtCatReport, 0] else []
  set S3 : List UInt8 := avdtCatCodec :: L :: value with hS3
  set S4 : List UInt8 := if c.numProtect ≠ 0 then avdtCatProtect :: M :: pvalue else []
  set S5 : List UInt8 :=
    if c.pscMask &&& avdtPscDelayRpt ≠ 0 then [avdtCatDelayRpt, 0] else []
  set B := avdtMsgBldCfg c
  have hB' : B = S1 ++ (S2 ++ (S3 ++ (S4 ++ S5))) := by
    rw [hB]
    simp only [List.append_assoc]
  -- the states after each part: each part is one round, or none
  set st0 : PrsCfgState :=
    ⟨0, 0, 0, { cfg₀ with pscMask := 0, numCodec := 0, numProtect := 0 }, 0⟩ with hst0
  set st1 := if c.pscMask &&& avdtPscTrans ≠ 0 then emptyElemStep avdtCatTrans st0 else st0
    with hst1
  set st2 := if c.pscMask &&& avdtPscReport ≠ 0 then emptyElemStep avdtCatReport st1 else st1
    with hst2
  set st3 := codecElemStep L value st2 with hst3
  set st4 := if c.numProtect ≠ 0 then protectElemStep M pvalue st3 else st3 with hst4
  set st5 := if c.pscMask &&& avdtPscDelayRpt ≠ 0 then emptyElemStep avdtCatDelayRpt st4 else st4
    with hst5
  have d0 : B.drop st0.pos = S1 ++ (S2 ++ (S3 ++ (S4 ++ (S5 ++ [])))) := by
    rw [hB', List.append_nil]
    rfl
  have e0 : st0.err = 0 := rfl
  -- the protection entry is the first, whatever came before it
  have pi2 : st2.cfg.protectInfo = cfg₀.protectInfo ∧ st2.cfg.numProtect = 0 ∧
      st2.protectOffset = 0 := by
    rw [hst2]
    split <;> (rw [hst1]; split <;> exact ⟨rfl, rfl, rfl⟩)
  have hfit : c.numProtect ≠ 0 → M.toNat + st3.protectOffset < avdtProtectSize := fun hnp => by
    have := (hq hnp).2.2
    show M.toNat + st2.protectOffset < avdtProtectSize
    rw [pi2.2.2]
    omega
  -- the runs, part by part
  obtain ⟨R1, d1, e1⟩ := runs_optionalEmpty avdtSigGetconfig (Or.inl rfl) e0 d0
  obtain ⟨R2, d2, e2⟩ := runs_optionalEmpty avdtSigGetconfig (Or.inr (Or.inl rfl)) e1 d1
  obtain ⟨R3, d3, e3⟩ := runs_codecElem avdtSigGetconfig e2 hvlen hL d2
  obtain ⟨R4, d4, e4⟩ :=
    runs_optionalProtect avdtSigGetconfig e3 hpvlen (fun hnp => (hq hnp).2.1) hfit d3
  obtain ⟨R5, d5, e5⟩ := runs_optionalEmpty avdtSigGetconfig (Or.inr (Or.inr rfl)) e4 d4
  -- the whole run stops at the end of the message, well within the fuel
  have R := (((R1.trans R2).trans R3).trans R4).trans R5
  have hstop : ¬ PrsCfgCont B.length st5 := fun h =>
    absurd (List.drop_eq_nil_iff.1 d5) (Nat.not_le.2 h.1)
  have hfuel : ∀ (b : Prop) [Decidable b], (if b then 1 else 0) ≤ 1 := fun _ _ => by
    split <;> omega
  have hB4 : 4 ≤ B.length := by
    rw [hB']
    simp only [List.length_append, hS3, List.length_cons, hvlen]
    omega
  have hrun : avdtMsgPrsCfg cfg₀ B B.length avdtSigGetconfig = some (0, st5.elem, st5.cfg) := by
    rw [← e5]
    refine R.whileLoop_eq hstop ?_
    have := hfuel (c.pscMask &&& avdtPscTrans ≠ 0)
    have := hfuel (c.pscMask &&& avdtPscReport ≠ 0)
    have := hfuel (c.numProtect ≠ 0)
    have := hfuel (c.pscMask &&& avdtPscDelayRpt ≠ 0)
    omega
  -- what the stored fields are at the end
  have ci2 : st2.cfg.codecInfo = cfg₀.codecInfo := by
    rw [hst2]
    split <;> (rw [hst1]; split <;> rfl)
  have ci5 : st5.cfg.codecInfo = memcpy (cfg₀.codecInfo.set 0 L) 1 value := by
    rw [hst5]
    split <;> (rw [hst4]; split <;> (show memcpy (st2.cfg.codecInfo.set 0 L) 1 value = _; rw [ci2]))
  have pi5 : st5.cfg.numProtect = (if c.numProtect ≠ 0 then 0 + 1 else 0) ∧
      (c.numProtect ≠ 0 → st5.cfg.protectInfo = memcpy (cfg₀.protectInfo.set 0 M) 1 pvalue) := by
    rw [hst5]
    split <;> (rw [hst4]; split <;> simp_all [protectElemStep, emptyElemStep, codecElemStep])
  refine ⟨st5.elem, st5.cfg, hrun, ?_, ?_, ?_, ?_⟩
  · -- the categories: one of the eight unions of the three
    have hm := pscMask_mem_of_within hpsc
    simp only [List.mem_cons, List.not_mem_nil, or_false] at hm
    rw [hst5, hst4, hst3, hst2, hst1]
    by_cases hnp : c.numProtect ≠ 0 <;>
      rcases hm with hm | hm | hm | hm | hm | hm | hm | hm <;>
      simp +decide [hm, hnp, emptyElemStep, codecElemStep, protectElemStep, hst0, avdtPscTrans,
        avdtPscReport, avdtPscDelayRpt]
  · -- the codec information
    have hfit : 0 + 1 + value.length ≤ cfg₀.codecInfo.length := by
      rw [hvlen, h₀c]
      omega
    have h := take_memcpy_set (a := L) hfit
    rw [hvlen, Nat.zero_add, Nat.add_comm 1, List.take_zero, List.nil_append] at h
    rw [ci5, h, hcv]
  · rw [pi5.1]
    rcases hprot with h0 | ⟨h1, -⟩
    · simp [h0]
    · simp [h1]
  · -- the protection entry
    intro h1
    have hnp : c.numProtect ≠ 0 := by rw [h1]; decide
    have hfit : 0 + 1 + pvalue.length ≤ cfg₀.protectInfo.length := by
      have := (hq hnp).2.2
      rw [hpvlen hnp, h₀p]
      omega
    have h := take_memcpy_set (a := M) hfit
    rw [hpvlen hnp, Nat.zero_add, Nat.add_comm 1, List.take_zero, List.nil_append] at h
    rw [pi5.2 hnp, h, hpv]

end RoundTrip

/-! ## §8 — the contract -/

/-- **`avdt_msg_prs_cfg`, and `avdt_msg_bld_cfg` followed by it.** The parse terminates,
reads only the first `len` bytes, accepts only a sequence of elements of accepted lengths,
and stores inside its arrays only what it copied from elements inside the buffer. Written
from a configuration with only media transport, reporting and delay reporting among its
categories, a codec and at most one content protection entry of at least
`AVDT_LEN_PROTECT_MIN` bytes, the message parses back without error. -/
theorem avdtMsgPrsCfg_wellFormed :
    (∀ cfg buf len sigId, (avdtMsgPrsCfg cfg buf len sigId).isSome) ∧
    (∀ cfg buf buf' len sigId, buf.take len = buf'.take len →
      avdtMsgPrsCfg cfg buf len sigId = avdtMsgPrsCfg cfg buf' len sigId) ∧
    (∀ cfg cfg' buf len sigId elem, avdtMsgPrsCfg cfg buf len sigId = some (0, elem, cfg') →
      ∃ ps q, len ≤ q ∧ Elements buf len ps q) ∧
    (∀ (cfg cfg' : AvdtpSepConfig) (buf : List UInt8) len sigId err elem, len ≤ buf.length →
      cfg.codecInfo.length = avdtCodecSize → cfg.protectInfo.length = avdtProtectSize →
      avdtMsgPrsCfg cfg buf len sigId = some (err, elem, cfg') →
      cfg'.codecInfo.length = avdtCodecSize ∧ cfg'.protectInfo.length = avdtProtectSize ∧
        ∃ ps q, Elements buf len ps q ∧ (err = 0 → len ≤ q) ∧
          (cfg'.numCodec ≠ 0 → ∃ i, (catPositions buf avdtCatCodec ps).getLast? = some i ∧
            CodecFromBuffer buf len i cfg'.codecInfo) ∧
          ∃ hs, hs.Sublist (catPositions buf avdtCatProtect ps) ∧
            hs.length = cfg'.numProtect.toNat ∧
            ∃ off ≤ avdtProtectSize, ProtectEntries buf len hs cfg'.protectInfo off) ∧
    (∀ c cfg₀ : AvdtpSepConfig, c.codecInfo.length = avdtCodecSize →
      c.protectInfo.length = avdtProtectSize → cfg₀.codecInfo.length = avdtCodecSize →
      cfg₀.protectInfo.length = avdtProtectSize →
      c.pscMask &&& ~~~(avdtPscTrans ||| avdtPscReport ||| avdtPscDelayRpt) = 0 →
      c.numCodec ≠ 0 →
      2 ≤ (c.codecInfo.getD 0 0).toNat ∧ (c.codecInfo.getD 0 0).toNat ≤ avdtCodecSize - 1 →
      c.numProtect = 0 ∨ c.numProtect = 1 ∧ 2 ≤ (c.protectInfo.getD 0 0).toNat ∧
        (c.protectInfo.getD 0 0).toNat ≤ avdtProtectSize - 1 →
      ∃ elem cfg, avdtMsgPrsCfg cfg₀ (avdtMsgBldCfg c) (avdtMsgBldCfg c).length avdtSigGetconfig =
          some (0, elem, cfg) ∧ cfg.pscMask = c.pscMask ∧
        cfg.codecInfo.take ((c.codecInfo.getD 0 0).toNat + 1) =
          c.codecInfo.take ((c.codecInfo.getD 0 0).toNat + 1) ∧
        cfg.numProtect = c.numProtect ∧
        (c.numProtect = 1 → cfg.protectInfo.take ((c.protectInfo.getD 0 0).toNat + 1) =
          c.protectInfo.take ((c.protectInfo.getD 0 0).toNat + 1))) :=
  ⟨avdtMsgPrsCfg_isSome, fun cfg _ _ _ sigId h => avdtMsgPrsCfg_congr_take h cfg sigId,
    fun _ _ _ _ _ _ h => avdtMsgPrsCfg_elements h,
    fun _ _ _ _ _ _ _ hbuf hc hp h => avdtMsgPrsCfg_stored hbuf hc hp h,
    fun _ _ hc hp h₀c h₀p hpsc hcodec hL hprot =>
      avdtMsgPrsCfg_avdtMsgBldCfg hc hp h₀c h₀p hpsc hcodec hL hprot⟩

/-- The round trip of a configuration with media transport, a codec, a content protection
entry and delay reporting, parsed into a value-initialised configuration. -/
theorem avdtMsgPrsCfg_roundTrip_transport_delay :
    ∃ elem cfg, avdtMsgPrsCfg AvdtpSepConfig.empty
        (avdtMsgBldCfg ⟨[2, 0x11, 0x22] ++ List.replicate 17 0,
          [2, 0x65, 0x66] ++ List.replicate 87 0, 1, 1, avdtPscTrans ||| avdtPscDelayRpt,
          0, 0, 0, 0⟩) 12 avdtSigGetconfig = some (0, elem, cfg) ∧
      cfg.pscMask = avdtPscTrans ||| avdtPscDelayRpt ∧ cfg.codecInfo.take 3 = [2, 0x11, 0x22] ∧
      cfg.numProtect = 1 ∧ cfg.protectInfo.take 3 = [2, 0x65, 0x66] := by
  obtain ⟨elem, cfg, h, hpsc, hcodec, hnum, hprot⟩ := avdtMsgPrsCfg_wellFormed.2.2.2.2
    ⟨[2, 0x11, 0x22] ++ List.replicate 17 0, [2, 0x65, 0x66] ++ List.replicate 87 0, 1, 1,
      avdtPscTrans ||| avdtPscDelayRpt, 0, 0, 0, 0⟩ AvdtpSepConfig.empty
    rfl rfl rfl rfl (by decide) (by decide) (by decide) (by decide)
  exact ⟨elem, cfg, h, hpsc, hcodec, hnum, hprot rfl⟩

/-- Where the contract stops: a codec element of length 20 with the 19 bytes the copy
reads is accepted with a length byte past `AVDT_CODEC_SIZE - 1`; a codec element of 25 bytes,
all in the buffer, is accepted with its length byte 25 but only its first 19 bytes stored; a
multiplexing element is accepted with its value past the end; a content protection entry of
one byte is written but refused on parsing (`AVDT_ERR_CP_FMT`); and without a codec none is
parsed back. -/
theorem avdtMsgPrsCfg_long_codec_and_short_protect :
    (∃ elem cfg, avdtMsgPrsCfg AvdtpSepConfig.empty ([7, 20] ++ List.replicate 19 0x11) 21
        avdtSigGetconfig = some (0, elem, cfg) ∧ cfg.numCodec = 1 ∧ cfg.codecInfo.getD 0 0 = 20) ∧
    (∃ elem cfg, avdtMsgPrsCfg AvdtpSepConfig.empty ([7, 25] ++ List.replicate 25 0x11) 27
        avdtSigGetconfig = some (0, elem, cfg) ∧ cfg.numCodec = 1 ∧ cfg.codecInfo.getD 0 0 = 25 ∧
        (cfg.codecInfo.drop 1).take 25 ≠ List.replicate 25 0x11) ∧
    (avdtMsgPrsCfg AvdtpSepConfig.empty [6, 3] 2 avdtSigGetconfig).map Prod.fst = some 0 ∧
    (avdtMsgPrsCfg AvdtpSepConfig.empty
        (avdtMsgBldCfg ⟨[2, 0x11, 0x22] ++ List.replicate 17 0, [1, 0x65] ++ List.replicate 88 0,
          1, 1, 0, 0, 0, 0, 0⟩) 7 avdtSigGetconfig).map Prod.fst = some avdtErrCpFmt ∧
    (avdtMsgPrsCfg AvdtpSepConfig.empty
        (avdtMsgBldCfg ⟨[2, 0x11, 0x22] ++ List.replicate 17 0, List.replicate 90 0,
          0, 0, 0, 0, 0, 0, 0⟩) 0 avdtSigGetconfig).map (fun r => r.2.2.codecInfo.getD 0 0) =
      some 0 :=
  ⟨⟨_, _, rfl, by decide, by decide⟩, ⟨_, _, rfl, by decide, by decide, by decide⟩, by decide,
    by decide, by decide⟩

end Avdt

import Fluoride.Sdp.Utils
import Mathlib.Data.List.GetD

/-!
# SDP server — what `sdpu_get_attrib_seq_len` computes, and when it stops

The reply to a ServiceSearchAttributeRequest announces, for each matching record, the
length of the attributes the request asks of it. The meaning of that length is
`requestedAttributes`: for each entry of the id/range list in order, the record's
attributes with ids in the entry's range, in record order.

* `sdpuGetAttribSeqLen_eq`: on a record none of whose attribute ids is `0xFFFF`, the
  loop stops within `|attrSeq| · (|record| + 1)` iterations with the sum of
  `sdpu_get_attrib_entry_len` over the requested attributes.
* `sdpuGetAttribSeqLen_eq_none`: when the first entry is a range ending at `0xFFFF` and
  the record holds attribute `0xFFFF` but not `0xFFFE`, the loop never stops. Moving on
  from attribute `0xFFFF` sets `start_id = p_attr->id + 1`, which wraps to `0` in its
  `uint16_t`, and the range is walked again from its start.

The range walk rests on one fact about sorted records, `attrsIn_succ_of_eq_cons`: once the
first attribute of a range has been counted, the attributes from the id after it are the
rest of the range.
-/

namespace Sdp

/-- The test `sdp_db_find_attr_in_rec` applies to each attribute. -/
def inRange (s e : UInt16) (a : Attribute) : Bool := s ≤ a.id && a.id ≤ e

/-- The attributes of a record with ids in `[s, e]`, in record order. -/
def attrsIn (rec : Record) (s e : UInt16) : List Attribute :=
  rec.attributes.filter (inRange s e)

/-- The attributes a request asks of a record: entry by entry, those in its range. -/
def requestedAttributes (rec : Record) (attrSeq : List AttEnt) : List Attribute :=
  attrSeq.flatMap (fun ent => attrsIn rec ent.start ent.last)

theorem sdpDbFindAttrInRec_eq_head (rec : Record) (s e : UInt16) :
    sdpDbFindAttrInRec rec s e = (attrsIn rec s e).head? := by
  rw [attrsIn, List.head?_filter]
  rfl

theorem mem_attrsIn {rec : Record} {s e : UInt16} {a : Attribute} :
    a ∈ attrsIn rec s e ↔ a ∈ rec.attributes ∧ inRange s e a = true :=
  List.mem_filter

theorem length_attrsIn_le (rec : Record) (s e : UInt16) :
    (attrsIn rec s e).length ≤ rec.attributes.length :=
  List.length_filter_le _ _

/-! ## Sorted records -/

/-- An id other than `0xFFFF` has a successor that does not wrap. -/
theorem toNat_add_one {x : UInt16} (hx : x ≠ 0xFFFF) : (x + 1).toNat = x.toNat + 1 := by
  have hlt : x.toNat < 0xFFFF := by
    have h := x.toNat_lt
    have hne : x.toNat ≠ 0xFFFF := fun h' => hx (UInt16.toNat_inj.mp (by simpa using h'))
    omega
  rw [UInt16.toNat_add]
  simp only [UInt16.toNat_one]
  omega

/-- **Walking a range.** In a list sorted by id, once the first attribute `a` of a range
has been counted, the attributes from `a.id + 1` on are the rest of the range. -/
theorem filter_inRange_succ_of_eq_cons {e : UInt16} {a : Attribute} {rest : List Attribute} :
    ∀ {l : List Attribute} {s : UInt16}, l.Pairwise (fun a b => a.id < b.id) →
      l.filter (inRange s e) = a :: rest → a.id ≠ 0xFFFF →
      l.filter (inRange (a.id + 1) e) = rest
  | [], _, _, h, _ => by simp at h
  | b :: bs, s, hl, h, ha => by
    obtain ⟨hb, hbs⟩ := List.pairwise_cons.mp hl
    by_cases hin : inRange s e b = true
    · -- `b` is the first attribute of the range: every later one is past it
      rw [List.filter_cons_of_pos hin] at h
      obtain ⟨rfl, rfl⟩ := List.cons.inj h
      have hsucc := toNat_add_one ha
      have hs : s ≤ b.id := by
        simp only [inRange, Bool.and_eq_true, decide_eq_true_eq] at hin
        exact hin.1
      rw [List.filter_cons_of_neg (by simp [inRange, UInt16.le_iff_toNat_le, hsucc])]
      refine List.filter_congr (fun x hx => ?_)
      have hax := UInt16.lt_iff_toNat_lt.mp (hb x hx)
      have h₁ : s ≤ x.id := by
        rw [UInt16.le_iff_toNat_le] at hs ⊢
        omega
      have h₂ : b.id + 1 ≤ x.id := by
        rw [UInt16.le_iff_toNat_le, hsucc]
        omega
      simp [inRange, h₁, h₂]
    · -- `b` is before the range, hence before `a + 1`
      rw [List.filter_cons_of_neg hin] at h
      have hmem : a ∈ bs := List.mem_of_mem_filter (h ▸ List.mem_cons_self)
      have hba := hb a hmem
      rw [List.filter_cons_of_neg, filter_inRange_succ_of_eq_cons hbs h ha]
      simp only [inRange, UInt16.le_iff_toNat_le, toNat_add_one ha, Bool.and_eq_true,
        decide_eq_true_eq, not_and]
      rw [UInt16.lt_iff_toNat_lt] at hba
      omega

theorem attrsIn_succ_of_eq_cons {rec : Record} {s e : UInt16} {a : Attribute}
    {rest : List Attribute} (h : attrsIn rec s e = a :: rest) (ha : a.id ≠ 0xFFFF) :
    attrsIn rec (a.id + 1) e = rest :=
  filter_inRange_succ_of_eq_cons rec.sorted h ha

/-- A range that starts past its end is empty. -/
theorem attrsIn_eq_nil_of_lt {rec : Record} {s e : UInt16} (h : e < s) : attrsIn rec s e = [] := by
  refine List.filter_eq_nil_iff.mpr (fun a _ => ?_)
  simp only [inRange, UInt16.le_iff_toNat_le, Bool.and_eq_true, decide_eq_true_eq, not_and]
  rw [UInt16.lt_iff_toNat_lt] at h
  omega

/-! ## The loop, one step at a time -/

section Walk

variable {rec : Record} {attrSeq : List AttEnt}

/-- On the first visit of an entry the loop loads its bounds; the iteration is then the
one of a state already walking that entry's range. -/
theorem sdpuGetAttribSeqLenBody_load (xx : Nat) (s e len1 : UInt16) :
    sdpuGetAttribSeqLenBody rec attrSeq ⟨xx, false, s, e, len1⟩ =
      sdpuGetAttribSeqLenBody rec attrSeq
        ⟨xx, true, (attrSeq.getD xx ⟨0, 0⟩).start, (attrSeq.getD xx ⟨0, 0⟩).last, len1⟩ := rfl

/-- An iteration on a range with nothing left in it moves to the next entry. -/
theorem sdpuGetAttribSeqLenBody_of_nil {xx : Nat} {s e len1 : UInt16}
    (h : attrsIn rec s e = []) :
    sdpuGetAttribSeqLenBody rec attrSeq ⟨xx, true, s, e, len1⟩ = ⟨xx + 1, false, s, e, len1⟩ := by
  simp only [sdpuGetAttribSeqLenBody, Bool.not_true, Bool.false_eq_true, if_false,
    sdpDbFindAttrInRec_eq_head, h, List.head?_nil]

/-- An iteration on a range whose next attribute is `a` counts it, and stays on the range
from `a.id + 1` unless the range was a single id. -/
theorem sdpuGetAttribSeqLenBody_of_cons {xx : Nat} {s e len1 : UInt16} {a : Attribute}
    {rest : List Attribute} (h : attrsIn rec s e = a :: rest) :
    sdpuGetAttribSeqLenBody rec attrSeq ⟨xx, true, s, e, len1⟩ =
      if s ≠ e then ⟨xx, true, a.id + 1, e, len1 + sdpuGetAttribEntryLen a⟩
      else ⟨xx + 1, false, s, e, len1 + sdpuGetAttribEntryLen a⟩ := by
  simp only [sdpuGetAttribSeqLenBody, Bool.not_true, Bool.false_eq_true, if_false,
    sdpDbFindAttrInRec_eq_head, h, List.head?_cons]

/-- The loop of `sdpu_get_attrib_seq_len` on `rec` and `attrSeq`. -/
abbrev AttribSeqLenRuns (rec : Record) (attrSeq : List AttEnt) :=
  Loop.Runs (fun st : AttribSeqLenState => st.xx < attrSeq.length)
    (sdpuGetAttribSeqLenBody rec attrSeq)

/-- **One range.** Walking the range `[s, e]` of entry `xx` counts its attributes and
moves to entry `xx + 1`, in one iteration per attribute and at most one more. The
induction is on the attributes left in the range; `attrsIn_succ_of_eq_cons` carries it. -/
theorem runs_range (hmax : ∀ a ∈ rec.attributes, a.id ≠ 0xFFFF) {xx : Nat}
    (hxx : xx < attrSeq.length) :
    ∀ (L : List Attribute) (s e len1 : UInt16), attrsIn rec s e = L →
      ∃ k ≤ L.length, ∃ s' e', AttribSeqLenRuns rec attrSeq (k + 1) ⟨xx, true, s, e, len1⟩
        ⟨xx + 1, false, s', e', len1 + (L.map sdpuGetAttribEntryLen).sum⟩
  | [], s, e, len1, hL => by
    refine ⟨0, le_refl _, s, e, ?_⟩
    have h : AttribSeqLenRuns rec attrSeq 1 ⟨xx, true, s, e, len1⟩
        (sdpuGetAttribSeqLenBody rec attrSeq ⟨xx, true, s, e, len1⟩) := Loop.Runs.single hxx
    rw [List.map_nil, List.sum_nil, add_zero]
    rwa [sdpuGetAttribSeqLenBody_of_nil hL] at h
  | a :: rest, s, e, len1, hL => by
    have hbody : sdpuGetAttribSeqLenBody rec attrSeq ⟨xx, true, s, e, len1⟩ = _ :=
      sdpuGetAttribSeqLenBody_of_cons hL
    obtain ⟨hmem, hin⟩ := mem_attrsIn.mp (hL ▸ List.mem_cons_self)
    have hrest := attrsIn_succ_of_eq_cons hL (hmax a hmem)
    rw [List.map_cons, List.sum_cons, ← add_assoc]
    by_cases hse : s ≠ e
    · -- a real range: walk on from the id after `a`
      rw [if_pos hse] at hbody
      obtain ⟨k, hk, s', e', hrun⟩ := runs_range hmax hxx rest (a.id + 1) e _ hrest
      refine ⟨k + 1, by simp only [List.length_cons]; omega, s', e', .step hxx ?_⟩
      rwa [hbody]
    · -- a single id: `a` is the only attribute it names
      rw [if_neg hse] at hbody
      have hnil : rest = [] := by
        rw [← hrest]
        refine attrsIn_eq_nil_of_lt ?_
        simp only [inRange, Bool.and_eq_true, decide_eq_true_eq] at hin
        rw [UInt16.lt_iff_toNat_lt, toNat_add_one (hmax a hmem)]
        rw [UInt16.le_iff_toNat_le, UInt16.le_iff_toNat_le] at hin
        have hse' : s.toNat = e.toNat := by rw [not_not.mp hse]
        omega
      subst hnil
      refine ⟨0, Nat.zero_le _, s, e, ?_⟩
      have h : AttribSeqLenRuns rec attrSeq 1 ⟨xx, true, s, e, len1⟩
          (sdpuGetAttribSeqLenBody rec attrSeq ⟨xx, true, s, e, len1⟩) := Loop.Runs.single hxx
      rw [List.map_nil, List.sum_nil, add_zero]
      rwa [hbody] at h

/-- **One entry.** From the first visit of entry `xx`, the loop counts the attributes the
entry names and moves to entry `xx + 1`. -/
theorem runs_entry (hmax : ∀ a ∈ rec.attributes, a.id ≠ 0xFFFF) {xx : Nat}
    (hxx : xx < attrSeq.length) (s e len1 : UInt16) :
    ∃ k ≤ rec.attributes.length, ∃ s' e', AttribSeqLenRuns rec attrSeq (k + 1)
      ⟨xx, false, s, e, len1⟩
      ⟨xx + 1, false, s', e', len1 + ((attrsIn rec attrSeq[xx].start attrSeq[xx].last).map
        sdpuGetAttribEntryLen).sum⟩ := by
  have hent : attrSeq.getD xx ⟨0, 0⟩ = attrSeq[xx] := List.getD_eq_getElem _ _ hxx
  obtain ⟨k, hk, s', e', hrun⟩ := runs_range hmax hxx _ attrSeq[xx].start attrSeq[xx].last len1 rfl
  refine ⟨k, le_trans hk (length_attrsIn_le _ _ _), s', e', ?_⟩
  -- the first iteration loads the entry, then the run is the range walk's
  cases hrun with
  | step _ hrest =>
    refine .step hxx ?_
    rwa [sdpuGetAttribSeqLenBody_load, hent]

/-- **The whole loop.** From the first visit of entry `xx`, the loop counts what the
entries from `xx` on ask for and reaches the end of the list. Induction on the number of
entries left. -/
theorem runs_from (hmax : ∀ a ∈ rec.attributes, a.id ≠ 0xFFFF) :
    ∀ (n xx : Nat) (s e len1 : UInt16), xx + n = attrSeq.length →
      ∃ k ≤ n * (rec.attributes.length + 1), ∃ s' e', AttribSeqLenRuns rec attrSeq k
        ⟨xx, false, s, e, len1⟩
        ⟨attrSeq.length, false, s', e',
          len1 + ((requestedAttributes rec (attrSeq.drop xx)).map sdpuGetAttribEntryLen).sum⟩
  | 0, xx, s, e, len1, hn => by
    have hdrop : attrSeq.drop xx = [] := List.drop_eq_nil_of_le (by omega)
    refine ⟨0, Nat.zero_le _, s, e, ?_⟩
    rw [hdrop, requestedAttributes, List.flatMap_nil, List.map_nil, List.sum_nil, add_zero,
      ← hn, Nat.add_zero]
    exact .refl _
  | n + 1, xx, s, e, len1, hn => by
    have hxx : xx < attrSeq.length := by omega
    obtain ⟨k₁, hk₁, s₁, e₁, hrun₁⟩ := runs_entry hmax hxx s e len1
    obtain ⟨k₂, hk₂, s₂, e₂, hrun₂⟩ := runs_from hmax n (xx + 1) s₁ e₁ _ (by omega)
    refine ⟨(k₁ + 1) + k₂, ?_, s₂, e₂, ?_⟩
    · rw [Nat.add_mul, Nat.one_mul]
      omega
    · rw [List.drop_eq_getElem_cons hxx, requestedAttributes, List.flatMap_cons, List.map_append,
        List.sum_append, ← add_assoc]
      exact hrun₁.trans hrun₂

end Walk

/-- **`sdpu_get_attrib_seq_len` is the length of the requested attributes.** On a record
with no attribute `0xFFFF`, the loop stops within `|attrSeq| · (|record| + 1)`
iterations, and its result is the sum of `sdpu_get_attrib_entry_len` over the requested
attributes, entry by entry, in record order. -/
theorem sdpuGetAttribSeqLen_eq (rec : Record) (attrSeq : List AttEnt)
    (hmax : ∀ a ∈ rec.attributes, a.id ≠ 0xFFFF) {fuel : Nat}
    (hfuel : attrSeq.length * (rec.attributes.length + 1) < fuel) :
    sdpuGetAttribSeqLen fuel rec attrSeq =
      some ((requestedAttributes rec attrSeq).map sdpuGetAttribEntryLen).sum := by
  obtain ⟨k, hk, s', e', hrun⟩ := runs_from hmax attrSeq.length 0 0 0 0 (Nat.zero_add _)
  rw [List.drop_zero, zero_add] at hrun
  exact hrun.whileLoop_eq (lt_irrefl _) (by omega)

/-! ## The wrap of `start_id` -/

/-- On a range `[s, 0xFFFF]` with `s ≠ 0xFFFF`, of a record holding attribute `0xFFFF` but
not `0xFFFE`, an iteration always finds an attribute and stays on the range, short of its
end: from `0xFFFF` it moves on to `0xFFFF + 1`, which is `0`. -/
theorem sdpuGetAttribSeqLenBody_wrapped {rec : Record} {attrSeq : List AttEnt}
    (hlast : ∃ a ∈ rec.attributes, a.id = 0xFFFF) (hprev : ∀ a ∈ rec.attributes, a.id ≠ 0xFFFE)
    {xx : Nat} {s len1 : UInt16} (hs : s ≠ 0xFFFF) :
    ∃ s' len1', s' ≠ 0xFFFF ∧
      sdpuGetAttribSeqLenBody rec attrSeq ⟨xx, true, s, 0xFFFF, len1⟩ =
        ⟨xx, true, s', 0xFFFF, len1'⟩ := by
  obtain ⟨a, ha, haid⟩ := hlast
  -- attribute `0xFFFF` lies in every range ending at `0xFFFF`, so the range is not empty
  have hin : a ∈ attrsIn rec s 0xFFFF := by
    refine mem_attrsIn.mpr ⟨ha, ?_⟩
    have hle : s ≤ 0xFFFF := UInt16.le_iff_toNat_le.mpr (Nat.le_of_lt_succ s.toNat_lt)
    simp [inRange, haid, hle]
  obtain ⟨b, rest, hL⟩ := List.exists_cons_of_ne_nil (List.ne_nil_of_mem hin)
  have hb : b ∈ rec.attributes := (mem_attrsIn.mp (hL ▸ List.mem_cons_self)).1
  refine ⟨b.id + 1, len1 + sdpuGetAttribEntryLen b, fun h => hprev b hb ?_, ?_⟩
  · exact (eq_sub_of_add_eq h).trans (by decide)
  · rw [sdpuGetAttribSeqLenBody_of_cons hL, if_pos hs]

/-- What keeps the loop on its first entry for ever: it is about to load the entry, or
walks its range with `start_id` short of the end `0xFFFF`. -/
def WalksWrappedRange (st : AttribSeqLenState) : Prop :=
  st.xx = 0 ∧ (st.isRange = false ∨ (st.endId = 0xFFFF ∧ st.startId ≠ 0xFFFF))

/-- **`sdpu_get_attrib_seq_len` does not stop on a wrapped range.** If the first entry of the
list is a range ending at `0xFFFF` (the "all attributes" request `0x0000-0xFFFF` is one)
and the record holds attribute `0xFFFF` but not `0xFFFE`, no fuel gives a result. -/
theorem sdpuGetAttribSeqLen_eq_none (rec : Record) (attrSeq : List AttEnt) {s : UInt16}
    (hhead : attrSeq.head? = some ⟨s, 0xFFFF⟩) (hs : s ≠ 0xFFFF)
    (hlast : ∃ a ∈ rec.attributes, a.id = 0xFFFF) (hprev : ∀ a ∈ rec.attributes, a.id ≠ 0xFFFE)
    (fuel : Nat) : sdpuGetAttribSeqLen fuel rec attrSeq = none := by
  obtain ⟨ents, rfl⟩ := List.head?_eq_some_iff.mp hhead
  refine Loop.whileLoop_eq_none_of_invariant WalksWrappedRange ?_ ?_ ⟨rfl, .inl rfl⟩ fuel
  · rintro st ⟨hxx, -⟩
    simp [hxx]
  · rintro ⟨xx, isRange, s₀, e₀, len1⟩ ⟨hxx, hmode⟩
    dsimp only at hxx hmode
    subst hxx
    -- in both modes the iteration walks a range `[s', 0xFFFF]` with `s' ≠ 0xFFFF`
    have hwalk : ∃ s', s' ≠ 0xFFFF ∧
        sdpuGetAttribSeqLenBody rec (⟨s, 0xFFFF⟩ :: ents) ⟨0, isRange, s₀, e₀, len1⟩ =
          sdpuGetAttribSeqLenBody rec (⟨s, 0xFFFF⟩ :: ents) ⟨0, true, s', 0xFFFF, len1⟩ := by
      cases isRange with
      | false => exact ⟨s, hs, sdpuGetAttribSeqLenBody_load 0 s₀ e₀ len1⟩
      | true =>
        obtain ⟨rfl, hs₀⟩ := hmode.resolve_left (by decide)
        exact ⟨s₀, hs₀, rfl⟩
    obtain ⟨s', hs', hbody⟩ := hwalk
    obtain ⟨s'', len1', hs'', hwrap⟩ : ∃ s'' len1', s'' ≠ 0xFFFF ∧
        sdpuGetAttribSeqLenBody rec (⟨s, 0xFFFF⟩ :: ents) ⟨0, true, s', 0xFFFF, len1⟩ =
          ⟨0, true, s'', 0xFFFF, len1'⟩ :=
      sdpuGetAttribSeqLenBody_wrapped hlast hprev hs'
    rw [hbody, hwrap]
    exact ⟨rfl, .inr ⟨rfl, hs''⟩⟩

/-! ## `sdpu_get_list_len` -/

/-- An `Option` fold fails as soon as one element fails whatever the accumulator. -/
theorem foldlM_eq_none_of_mem {α β : Type} {f : β → α → Option β} {x : α}
    (hx : ∀ b, f b x = none) : ∀ {l : List α} {init : β}, x ∈ l → l.foldlM f init = none
  | y :: ys, init, hmem => by
    rw [List.foldlM_cons]
    rcases List.mem_cons.mp hmem with rfl | hys
    · rw [hx]
      rfl
    · cases f init y with
      | none => rfl
      | some b => exact foldlM_eq_none_of_mem hx hys

/-- A record on which `sdpu_get_attrib_seq_len` does not stop keeps `sdpu_get_list_len`
from stopping too. -/
theorem sdpuGetListLen_eq_none {fuel : Nat} {serviceMatches : Record → Bool}
    {db : List Record} {attrSeq : List AttEnt} {rec : Record} (hrec : rec ∈ db)
    (hm : serviceMatches rec = true) (h : sdpuGetAttribSeqLen fuel rec attrSeq = none) :
    sdpuGetListLen fuel serviceMatches db attrSeq = none := by
  refine foldlM_eq_none_of_mem (fun len => ?_) (List.mem_filter.mpr ⟨hrec, hm⟩)
  simp only [h]
  rfl

/-- A record whose last attribute is `0xFFFF` (after the record handle `0x0000` every
record starts with, and a service class id list `0x0001`), asked for all its attributes
with the range `0x0000-0xFFFF`: neither `sdpu_get_attrib_seq_len` nor
`sdpu_get_list_len` stops, whatever the fuel. -/
theorem sdpuGetAttribSeqLen_all_attributes_diverges (fuel : Nat) :
    sdpuGetAttribSeqLen fuel ⟨[⟨0x0000, 1, 4⟩, ⟨0x0001, 6, 3⟩, ⟨0xFFFF, 1, 2⟩], by decide⟩
        [⟨0x0000, 0xFFFF⟩] = none ∧
      sdpuGetListLen fuel (fun _ => true)
        [⟨[⟨0x0000, 1, 4⟩, ⟨0x0001, 6, 3⟩, ⟨0xFFFF, 1, 2⟩], by decide⟩]
        [⟨0x0000, 0xFFFF⟩] = none := by
  have h := sdpuGetAttribSeqLen_eq_none
    ⟨[⟨0x0000, 1, 4⟩, ⟨0x0001, 6, 3⟩, ⟨0xFFFF, 1, 2⟩], by decide⟩ [⟨0x0000, 0xFFFF⟩] rfl
    (by decide) ⟨⟨0xFFFF, 1, 2⟩, by decide, rfl⟩ (by decide) fuel
  exact ⟨h, sdpuGetListLen_eq_none (List.mem_singleton_self _) rfl h⟩

end Sdp

import Fluoride.Lib.Loop
import Mathlib.Data.UInt

/-!
# SDP server — attribute lookup and list lengths

The part of the SDP server (`sdp_db.cc`, `sdp_utils.cc`) that walks a record's attributes
for an attribute id/range list: `sdp_db_find_attr_in_rec`, `sdpu_get_attrib_entry_len`,
`sdpu_get_attrib_seq_len` and `sdpu_get_list_len`. The server calls the last two for
every record a ServiceSearchAttributeRequest matches, to fill in the sequence headers
of its reply, before the first response is sent.

An attribute id is the code's `uint16_t`, so `UInt16`; lengths summed into a `uint16_t`
are `UInt16` sums. The attribute range loop of `sdpu_get_attrib_seq_len` moves its own
index back (`xx--`) to stay on a range; whether it stops is the question, so it is a
`Loop.whileLoop` with explicit fuel.
-/

namespace Sdp

/-- The descriptor types `sdpu_get_attrib_entry_len` distinguishes (`sdpdefs.h`). -/
def textStrDescType : UInt8 := 4
def dataEleSeqDescType : UInt8 := 6
def dataEleAltDescType : UInt8 := 7
def urlDescType : UInt8 := 8

/-- `tSDP_ATTRIBUTE`: its id, descriptor type and value length. -/
structure Attribute where
  id : UInt16
  type : UInt8
  len : UInt32
  deriving DecidableEq, Repr

/-- `tSDP_RECORD`, as far as the lookups read it: its attributes, which the database
API (`SDP_AddAttributeToRecord`) keeps in increasing id order and which
`sdp_db_find_attr_in_rec` "assumes to be in sorted order" (the array `attribute`, a
keyword of Lean, is `attributes`). -/
structure Record where
  attributes : List Attribute
  sorted : attributes.Pairwise (fun a b => a.id < b.id)

/-- `tATT_ENT`: one entry of a request's attribute id list, a single id when the two
bounds agree. `end` is a keyword of Lean, so the upper bound is `last`. -/
structure AttEnt where
  start : UInt16
  last : UInt16
  deriving DecidableEq, Repr

/-- `sdp_db_find_attr_in_rec`: the first attribute of the record whose id lies in
`[startAttr, endAttr]`. -/
def sdpDbFindAttrInRec (rec : Record) (startAttr endAttr : UInt16) : Option Attribute :=
  rec.attributes.find? (fun a => startAttr ≤ a.id && a.id ≤ endAttr)

/-- `sdpu_get_attrib_entry_len`: the bytes `sdpu_build_attrib_entry` writes for an
attribute, its 3-byte id element, the value's header and the value. `SDP_MAX_ATTR_LEN`
is 400, so of the header sizes only the one- and two-byte length forms are compiled in. -/
def sdpuGetAttribEntryLen (a : Attribute) : UInt16 :=
  let len : UInt16 := 3
  if a.type = textStrDescType ∨ a.type = dataEleSeqDescType ∨ a.type = dataEleAltDescType ∨
      a.type = urlDescType then
    let len := if a.len > 0xFF then len + 3 else len + 2
    len + a.len.toUInt16
  else
    let len := if a.len = 1 ∨ a.len = 2 ∨ a.len = 4 ∨ a.len = 8 ∨ a.len = 16 then len + 1
      else len + 2
    len + a.len.toUInt16

/-! ## `sdpu_get_attrib_seq_len` -/

/-- The locals of the attribute loop of `sdpu_get_attrib_seq_len`. -/
structure AttribSeqLenState where
  xx : Nat
  isRange : Bool
  startId : UInt16
  endId : UInt16
  len1 : UInt16
  deriving DecidableEq, Repr

/-- The body of the loop, with the loop's `xx++`. On a range with an attribute found it
moves on from the id after that attribute and stays on the entry: its `xx--` and the
loop's `xx++` cancel (on `xx = 0` too, through the wrap of the `uint16_t` index). -/
def sdpuGetAttribSeqLenBody (rec : Record) (attrSeq : List AttEnt) (st : AttribSeqLenState) :
    AttribSeqLenState :=
  let startId := if !st.isRange then (attrSeq.getD st.xx ⟨0, 0⟩).start else st.startId
  let endId := if !st.isRange then (attrSeq.getD st.xx ⟨0, 0⟩).last else st.endId
  match sdpDbFindAttrInRec rec startId endId with
  | some pAttr =>
    let len1 := st.len1 + sdpuGetAttribEntryLen pAttr
    if startId ≠ endId then ⟨st.xx, true, pAttr.id + 1, endId, len1⟩
    else ⟨st.xx + 1, false, startId, endId, len1⟩
  | none => ⟨st.xx + 1, false, startId, endId, st.len1⟩

/-- `sdpu_get_attrib_seq_len`, run with at most `fuel` iterations: the bytes the
requested attributes of a record take in a reply, or `none` if the loop has not
stopped within the fuel. -/
def sdpuGetAttribSeqLen (fuel : Nat) (rec : Record) (attrSeq : List AttEnt) : Option UInt16 :=
  Loop.whileLoop (fun st => st.xx < attrSeq.length) (sdpuGetAttribSeqLenBody rec attrSeq)
    (·.len1) fuel ⟨0, false, 0, 0, 0⟩

/-- `sdpu_get_list_len`: the length of the whole attribute list of a
ServiceSearchAttributeResponse, over the records `sdp_db_service_search` yields (those
`serviceMatches` accepts, in database order), each call of `sdpu_get_attrib_seq_len` with the
same fuel. -/
def sdpuGetListLen (fuel : Nat) (serviceMatches : Record → Bool) (db : List Record)
    (attrSeq : List AttEnt) : Option UInt16 :=
  (db.filter serviceMatches).foldlM (fun len rec => do
    let len := len + 3
    let len1 ← sdpuGetAttribSeqLen fuel rec attrSeq
    pure (if len1 ≠ 0 then len + len1 else len - 3)) 0

/-! ## `sdpu_sort_attr_list` -/

/-- `SDP_MAX_ATTR_FILTERS` (`bt_target.h`): the entries of `attr_filters`. -/
def sdpMaxAttrFilters : Nat := 15

/-- The locals of the loop of `sdpu_sort_attr_list`: the array `p_db->attr_filters` and the
`uint16_t` index `i`, which stays below `num_attr` and so never wraps. -/
structure SortAttrListState where
  attrFilters : List UInt16
  i : Nat
  deriving DecidableEq, Repr

/-- The body of the loop: an out-of-order pair at `i` is swapped and the loop starts again
from `0`; otherwise `i++`. -/
def sdpuSortAttrListBody (st : SortAttrListState) : SortAttrListState :=
  if st.attrFilters.getD st.i 0 > st.attrFilters.getD (st.i + 1) 0 then
    let x := st.attrFilters.getD st.i 0
    let attrFilters := st.attrFilters.set st.i (st.attrFilters.getD (st.i + 1) 0)
    ⟨attrFilters.set (st.i + 1) x, 0⟩
  else ⟨st.attrFilters, st.i + 1⟩

/-- `sdpu_sort_attr_list(num_attr, p_db)`, its loop run for at most `fuel` iterations:
`p_db->attr_filters` after it, or `none` if the loop has not stopped within the fuel. -/
def sdpuSortAttrList (fuel : Nat) (numAttr : UInt16) (attrFilters : List UInt16) :
    Option (List UInt16) :=
  if numAttr ≤ 1 then some attrFilters
  else
    let numAttr : UInt16 :=
      if numAttr.toNat > sdpMaxAttrFilters then sdpMaxAttrFilters.toUInt16 else numAttr
    let numAttr := numAttr - 1
    Loop.whileLoop (fun st => st.i < numAttr.toNat) sdpuSortAttrListBody (·.attrFilters) fuel
      ⟨attrFilters, 0⟩

end Sdp

import Fluoride.Lib.ListSeg
import Fluoride.Lib.Replay

/-!
# The osi singly linked list (`list.cc`)

A `list_t` holds `head`, `tail` and `length`. Its nodes live in the heap, each with a `next`
pointer and a `data` pointer. Addresses and data pointers are numbers, and `0` is `NULL`. Each
call that allocates a node is given the address `allocator->alloc` returned (`0` when the
allocation failed). A failed `log::assert_that` is `aborted`. A read through a pointer that is
no node, or a loop that never reaches `NULL`, is `undefined`. The loops of `list_remove` and
`list_clear` run with fuel: `length` for the first, `length + 1` for the second.

The abstract list (`specStep`) holds each node's address with its data pointer. `list_append`
and `list_prepend` add at either end, `list_insert_after` adds after a given node, `list_remove`
erases the first pair whose data pointer matches and answers whether there was one, and
`list_clear` empties it.
-/

namespace Osi

/-- `list_node_t`. -/
structure ListNode where
  next : Nat
  data : Nat
  deriving DecidableEq, Repr

/-- `list_t`, without `free_cb` and `allocator`. -/
structure ListT where
  head : Nat
  tail : Nat
  length : Nat
  deriving DecidableEq, Repr

/-- A list and the heap its nodes live in. -/
structure ListState where
  heap : Nat → Option ListNode
  list : ListT

/-- What a call returns. -/
inductive ListReply
  /-- the `bool` of `list_append`, `list_prepend`, `list_insert_after` and `list_remove` -/
  | returned (result : Bool)
  /-- `list_clear` returns nothing -/
  | cleared
  /-- a `log::assert_that` fails -/
  | aborted
  /-- a pointer that is no node is read, or a loop does not end -/
  | undefined
  deriving DecidableEq, Repr

/-- `node->next = next`: `none` when `node` holds no node. -/
def setNext (heap : Nat → Option ListNode) (node next : Nat) : Option (Nat → Option ListNode) :=
  (heap node).map fun n => Function.update heap node (some { n with next })

/-- `list_free_node_`: the node's successor, and the list with the node freed and one node
less. -/
def listFreeNode (s : ListState) (node : Nat) : Option (Nat × ListState) :=
  (s.heap node).map fun n =>
    (n.next, ⟨Function.update s.heap node none, { s.list with length := s.list.length - 1 }⟩)

/-- `list_append(list, data)`, with `node` the address `alloc` returned. -/
def listAppend (s : ListState) (node data : Nat) : ListReply × ListState :=
  if data = 0 then (.aborted, s)
  else if node = 0 then (.returned false, s)
  else
    let heap := Function.update s.heap node (some ⟨0, data⟩)
    if s.list.tail = 0 then
      (.returned true,
        ⟨heap, { s.list with head := node, tail := node, length := s.list.length + 1 }⟩)
    else match setNext heap s.list.tail node with
      | none => (.undefined, s)
      | some heap =>
        (.returned true, ⟨heap, { s.list with tail := node, length := s.list.length + 1 }⟩)

/-- `list_prepend(list, data)`, with `node` the address `alloc` returned. -/
def listPrepend (s : ListState) (node data : Nat) : ListReply × ListState :=
  if data = 0 then (.aborted, s)
  else if node = 0 then (.returned false, s)
  else
    let heap := Function.update s.heap node (some ⟨s.list.head, data⟩)
    let list : ListT := { s.list with head := node }
    let list : ListT := if list.tail = 0 then { list with tail := list.head } else list
    (.returned true, ⟨heap, { list with length := list.length + 1 }⟩)

/-- `list_insert_after(list, prev_node, data)`, with `node` the address `alloc` returned. -/
def listInsertAfter (s : ListState) (prevNode node data : Nat) : ListReply × ListState :=
  if prevNode = 0 ∨ data = 0 then (.aborted, s)
  else if node = 0 then (.returned false, s)
  else match s.heap prevNode with
    | none => (.undefined, s)
    | some prev =>
      let heap := Function.update s.heap node (some ⟨prev.next, data⟩)
      match setNext heap prevNode node with
      | none => (.undefined, s)
      | some heap =>
        let tail := if s.list.tail = prevNode then node else s.list.tail
        (.returned true, ⟨heap, { s.list with tail, length := s.list.length + 1 }⟩)

/-- The loop of `list_remove` past the head: `prev` and `node` walk the chain until `node`'s
data is `data`, which is then unlinked and freed. -/
def removeAfter (data : Nat) : Nat → ListState → Nat → Nat → ListReply × ListState
  | 0, s, _, _ => (.undefined, s)
  | fuel + 1, s, prev, node =>
    if node = 0 then (.returned false, s)
    else match s.heap node with
      | none => (.undefined, s)
      | some n =>
        if n.data = data then
          match listFreeNode s node with
          | none => (.undefined, s)
          | some (next, s') =>
            match setNext s'.heap prev next with
            | none => (.undefined, s)
            | some heap =>
              let tail := if s'.list.tail = node then prev else s'.list.tail
              (.returned true, ⟨heap, { s'.list with tail }⟩)
        else removeAfter data fuel s node n.next

/-- `list_remove(list, data)`: the first node whose data is `data` goes. -/
def listRemove (s : ListState) (data : Nat) : ListReply × ListState :=
  if data = 0 then (.aborted, s)
  else if s.list.length = 0 then (.returned false, s)
  else match s.heap s.list.head with
    | none => (.undefined, s)
    | some head =>
      if head.data = data then
        match listFreeNode s s.list.head with
        | none => (.undefined, s)
        | some (next, s') =>
          let tail := if s'.list.tail = s'.list.head then next else s'.list.tail
          (.returned true, ⟨s'.heap, { s'.list with tail, head := next }⟩)
      else removeAfter data s.list.length s s.list.head head.next

/-- The loop of `list_clear`: each node freed in turn. -/
def clearFrom : Nat → ListState → Nat → Option ListState
  | 0, _, _ => none
  | fuel + 1, s, node =>
    if node = 0 then some s
    else match listFreeNode s node with
      | none => none
      | some (next, s') => clearFrom fuel s' next

/-- `list_clear(list)`. -/
def listClear (s : ListState) : ListReply × ListState :=
  match clearFrom (s.list.length + 1) s s.list.head with
  | none => (.undefined, s)
  | some s' => (.cleared, ⟨s'.heap, { s'.list with head := 0, tail := 0, length := 0 }⟩)

/-- A call on a list. `node` is the address `allocator->alloc` returns to it. -/
inductive ListOp
  | append (node data : Nat)
  | prepend (node data : Nat)
  | insertAfter (prevNode node data : Nat)
  | remove (data : Nat)
  | clear
  deriving DecidableEq, Repr

def step (s : ListState) : ListOp → ListReply × ListState
  | .append node data => listAppend s node data
  | .prepend node data => listPrepend s node data
  | .insertAfter prevNode node data => listInsertAfter s prevNode node data
  | .remove data => listRemove s data
  | .clear => listClear s

/-! ## What the list holds -/

/-- The data pointer of the node at `a`. -/
def dataAt (heap : Nat → Option ListNode) (a : Nat) : Nat := ((heap a).map ListNode.data).getD 0

/-- The nodes from `head`, read for `length` nodes, each with its data pointer: what
`list_begin`, `list_next` and `list_node` visit. -/
def contents (s : ListState) : List (Nat × Nat) :=
  (ListSeg.walk 0 ListNode.next s.heap s.list.length s.list.head).map fun a => (a, dataAt s.heap a)

/-- The pair `e` put after the first pair at address `prev`. -/
def insertAfterNode (prev : Nat) (e : Nat × Nat) : List (Nat × Nat) → List (Nat × Nat)
  | [] => []
  | x :: xs => if x.1 = prev then x :: e :: xs else x :: insertAfterNode prev e xs

/-- The abstract list: each node's address and data pointer, in order. -/
def specStep (l : List (Nat × Nat)) : ListOp → ListReply × List (Nat × Nat)
  | .append node data => (.returned true, l ++ [(node, data)])
  | .prepend node data => (.returned true, (node, data) :: l)
  | .insertAfter prevNode node data => (.returned true, insertAfterNode prevNode (node, data) l)
  | .remove data => (.returned (l.any (·.2 == data)), l.eraseP (·.2 == data))
  | .clear => (.cleared, [])

/-- What a caller must keep to: data pointers are not `NULL`, the allocator succeeds with an
address no node holds, and `list_insert_after` names a node of the list. -/
def Allowed (s : ListState) : ListOp → Prop
  | .append node data => data ≠ 0 ∧ node ≠ 0 ∧ s.heap node = none
  | .prepend node data => data ≠ 0 ∧ node ≠ 0 ∧ s.heap node = none
  | .insertAfter prevNode node data =>
    prevNode ∈ (contents s).map Prod.fst ∧ data ≠ 0 ∧ node ≠ 0 ∧ s.heap node = none
  | .remove data => data ≠ 0
  | .clear => True

end Osi

import Fluoride.Osi.List

/-!
# `list.cc` keeps its representation and refines a list of pairs

The representation invariant `Inv s nodes` holds when three things hold:
* from `head`, the `next` pointers visit `nodes` and reach `NULL`;
* `tail` is the last of them (`NULL` for none);
* `length` counts them.

The chain has no cycle (`Inv.nodup`), and `tail` is `NULL` exactly when `head` is
(`Inv.tail_eq_zero_iff_head`). Each call allowed from a state with the invariant keeps it. It
returns what the abstract list returns, and leaves the abstract list's next state as what the
list holds (`append_refines`, ..., `step_refines`). The invariant rule and the refinement rule of
`Lts` then carry both through every allowed sequence of calls (`list_ops_keep_representation`).
-/

namespace Osi

open ListSeg

/-- The representation invariant of `list_t`: from `head` the `next` pointers visit `nodes`
and reach `NULL`; `tail` is the last of them, `NULL` for none; `length` counts them. -/
structure Inv (s : ListState) (nodes : List Nat) : Prop where
  chain : Seg 0 ListNode.next s.heap s.list.head nodes 0
  tail : s.list.tail = nodes.getLast?.getD 0
  length : s.list.length = nodes.length

/-! ## Reading the heap -/

section Heap

variable {heap : Nat → Option ListNode}

theorem dataAt_update_of_ne {a b : Nat} (ne : b ≠ a) (v : Option ListNode) :
    dataAt (Function.update heap a v) b = dataAt heap b := by
  simp [dataAt, Function.update_of_ne ne]

theorem dataAt_update_self (a : Nat) (n : ListNode) :
    dataAt (Function.update heap a (some n)) a = n.data := by
  simp [dataAt]

theorem setNext_eq {a : Nat} {n : ListNode} (cell : heap a = some n) (next : Nat) :
    setNext heap a next = some (Function.update heap a (some { n with next })) := by
  simp [setNext, cell]

/-- Writing a node's `next` keeps every data pointer. -/
theorem dataAt_update_next {a : Nat} {n : ListNode} (cell : heap a = some n) (next b : Nat) :
    dataAt (Function.update heap a (some { n with next })) b = dataAt heap b := by
  by_cases same : b = a
  · subst same
    simp [dataAt, cell]
  · exact dataAt_update_of_ne same _

/-- A write off the nodes `l` keeps their data pointers. -/
theorem map_dataAt_update_of_not_mem {l : List Nat} {b : Nat} (out : b ∉ l) (v : Option ListNode) :
    l.map (fun a => (a, dataAt (Function.update heap b v) a)) = l.map fun a => (a, dataAt heap a) :=
  List.map_congr_left fun a mem => by
    rw [dataAt_update_of_ne (fun same : a = b => out (same ▸ mem))]

end Heap

namespace Inv

variable {s : ListState} {nodes : List Nat}

theorem nodup (inv : Inv s nodes) : nodes.Nodup := inv.chain.chain_nodup

theorem head_eq_zero_iff (inv : Inv s nodes) : s.list.head = 0 ↔ nodes = [] :=
  inv.chain.head_eq_null

theorem tail_eq_zero_iff (inv : Inv s nodes) : s.list.tail = 0 ↔ nodes = [] := by
  rw [inv.tail]
  cases last : nodes.getLast? with
  | none => simp [List.getLast?_eq_none_iff.1 last]
  | some t =>
    have ne := (inv.chain.mem (List.mem_of_getLast? last)).1
    refine ⟨fun zero => absurd zero ne, fun nil => ?_⟩
    subst nil
    cases last

/-- `tail` is `NULL` exactly when `head` is. -/
theorem tail_eq_zero_iff_head (inv : Inv s nodes) : s.list.tail = 0 ↔ s.list.head = 0 :=
  inv.tail_eq_zero_iff.trans inv.head_eq_zero_iff.symm

/-- What the list holds: its nodes, each with its data pointer. -/
theorem contents_eq (inv : Inv s nodes) :
    contents s = nodes.map fun a => (a, dataAt s.heap a) := by
  rw [contents, walk_of_chain inv.chain (by rw [inv.length])]

end Inv

/-- A new list, as `list_new` leaves it, holds no node, whatever the heap. -/
theorem inv_empty (heap : Nat → Option ListNode) : Inv ⟨heap, ⟨0, 0, 0⟩⟩ [] :=
  ⟨.nil 0, rfl, rfl⟩

/-! ## Relinking a chain -/

/-- Pointing the node at `p` to `y` joins the segment up to `p` and the chain from `y`. -/
theorem chain_relink {heap : Nat → Option ListNode} {h p y : Nat} {pre post : List Nat}
    (pn : ListNode) (front : Seg 0 ListNode.next heap h pre p) (p_ne : p ≠ 0)
    (back : Seg 0 ListNode.next heap y post 0) (p_pre : p ∉ pre)
    (p_post : p ∉ post) :
    Seg 0 ListNode.next (Function.update heap p (some { pn with next := y })) h (pre ++ p :: post)
      0 :=
  (front.update_of_not_mem p_pre _).append
    (.cons p_ne (Function.update_self ..) (back.update_of_not_mem p_post _))

/-- The last node after relinking at `p`: the code moves `tail` to `x` exactly when `p` was the
last node, and `x` then heads what follows `p`. -/
theorem lastD_relink {pre post : List Nat} {p : Nat} (nodup : (pre ++ p :: post).Nodup)
    (x : Nat) :
    (if (pre ++ p :: post).getLast?.getD 0 = p then x else (pre ++ p :: post).getLast?.getD 0) =
      (x :: post).getLast?.getD 0 := by
  cases post with
  | nil => simp
  | cons b rest =>
    have p_out : p ∉ b :: rest := (List.nodup_cons.1 (List.nodup_append.1 nodup).2.1).1
    obtain ⟨last, eq⟩ : ∃ last, (b :: rest).getLast? = some last :=
      Option.isSome_iff_exists.1 (by simp)
    have ne : last ≠ p := fun same => p_out (same ▸ List.mem_of_getLast? eq)
    simp [List.getLast?_append, List.getLast?_cons_cons, eq, ne]

/-! ## Each call -/

section Calls

variable {s : ListState} {nodes : List Nat}

/-- `list_append` adds a node at the end. -/
theorem append_refines (inv : Inv s nodes) {node data : Nat} (ok : data ≠ 0) (nz : node ≠ 0)
    (fresh : s.heap node = none) :
    ∃ nodes', Inv (listAppend s node data).2 nodes' ∧
      specStep (contents s) (.append node data) =
        ((listAppend s node data).1, contents (listAppend s node data).2) := by
  have out : node ∉ nodes := inv.chain.not_mem_of_fresh fresh
  have cell₁ : Function.update s.heap node (some ⟨0, data⟩) node = some ⟨0, data⟩ :=
    Function.update_self ..
  have last : Seg 0 ListNode.next (Function.update s.heap node (some ⟨0, data⟩)) node [node] 0 :=
    Seg.single nz cell₁ rfl
  refine ⟨nodes ++ [node], ?_⟩
  simp only [listAppend, if_neg ok, if_neg nz]
  by_cases empty : s.list.tail = 0
  · -- an empty list: the node is both ends
    have nil := inv.tail_eq_zero_iff.1 empty
    subst nil
    simp only [if_pos empty]
    have inv' : Inv ⟨Function.update s.heap node (some ⟨0, data⟩),
        { s.list with head := node, tail := node, length := s.list.length + 1 }⟩ [node] :=
      ⟨last, rfl, by simp [inv.length]⟩
    refine ⟨inv', ?_⟩
    rw [inv'.contents_eq, inv.contents_eq]
    simp [specStep, dataAt_update_self]
  · -- the old tail points to the node
    obtain ⟨init, t, split⟩ := List.eq_nil_or_concat' nodes |>.resolve_left
      (fun nil => empty (inv.tail_eq_zero_iff.2 nil))
    subst split
    have tail : s.list.tail = t := by simp [inv.tail]
    obtain ⟨first, t_ne, tn, tcell, tnext⟩ := inv.chain.chain_last
    have t_node : t ≠ node := fun same => out (by simp [same])
    have tcell₁ : Function.update s.heap node (some ⟨0, data⟩) t = some tn := by
      rw [Function.update_of_ne t_node, tcell]
    have init_t : t ∉ init := fun mem =>
      (List.nodup_append.1 inv.nodup).2.2 t mem t (List.mem_singleton_self t) rfl
    simp only [tail, if_neg t_ne, setNext_eq tcell₁]
    -- the new heap: the node written, then the old tail's `next`
    set heap₂ := Function.update (Function.update s.heap node (some ⟨0, data⟩)) t
      (some { tn with next := node })
    have cell₂ : heap₂ t = some { tn with next := node } := Function.update_self ..
    have data₂ : ∀ a, dataAt heap₂ a = dataAt (Function.update s.heap node (some ⟨0, data⟩)) a :=
      dataAt_update_next tcell₁ node
    have chain₂ : Seg 0 ListNode.next heap₂ s.list.head (init ++ [t] ++ [node]) 0 := by
      have front : Seg 0 ListNode.next heap₂ s.list.head init t :=
        (first.update_of_not_mem (fun mem => out (List.mem_append_left _ mem)) _).update_of_not_mem
          init_t _
      refine (front.append (Seg.single t_ne cell₂ rfl)).append ?_
      exact last.update_of_not_mem (by simpa using t_node) _
    have inv' : Inv ⟨heap₂, { s.list with tail := node, length := s.list.length + 1 }⟩
        (init ++ [t] ++ [node]) := ⟨chain₂, by simp, by simp [inv.length]⟩
    have keep : (init ++ [t]).map (fun a => (a, dataAt heap₂ a)) =
        (init ++ [t]).map (fun a => (a, dataAt s.heap a)) :=
      List.map_congr_left fun a mem => by
        rw [data₂, dataAt_update_of_ne (fun same : a = node => out (same ▸ mem))]
    refine ⟨inv', ?_⟩
    rw [inv'.contents_eq, inv.contents_eq, ← keep]
    simp [specStep, data₂, dataAt_update_self]

theorem listPrepend_eq {node data : Nat} (ok : data ≠ 0) (nz : node ≠ 0) :
    listPrepend s node data = (.returned true,
      ⟨Function.update s.heap node (some ⟨s.list.head, data⟩),
        ⟨node, if s.list.tail = 0 then node else s.list.tail, s.list.length + 1⟩⟩) := by
  simp only [listPrepend, if_neg ok, if_neg nz]
  split_ifs <;> rfl

/-- `list_prepend` adds a node at the front. -/
theorem prepend_refines (inv : Inv s nodes) {node data : Nat} (ok : data ≠ 0) (nz : node ≠ 0)
    (fresh : s.heap node = none) :
    ∃ nodes', Inv (listPrepend s node data).2 nodes' ∧
      specStep (contents s) (.prepend node data) =
        ((listPrepend s node data).1, contents (listPrepend s node data).2) := by
  have out : node ∉ nodes := inv.chain.not_mem_of_fresh fresh
  have chain₁ : Seg 0 ListNode.next (Function.update s.heap node (some ⟨s.list.head, data⟩)) node
      (node :: nodes) 0 :=
    .cons nz (Function.update_self ..) (inv.chain.update_of_not_mem out _)
  -- `tail` moves only off an empty list
  have tail₁ : (if s.list.tail = 0 then node else s.list.tail) = (node :: nodes).getLast?.getD 0 := by
    by_cases empty : s.list.tail = 0
    · rw [if_pos empty, inv.tail_eq_zero_iff.1 empty]
      rfl
    · rw [if_neg empty, inv.tail]
      cases nodes with
      | nil => exact absurd (inv.tail_eq_zero_iff.2 rfl) empty
      | cons a rest => simp [List.getLast?_cons_cons]
  rw [listPrepend_eq ok nz]
  have inv' : Inv ⟨Function.update s.heap node (some ⟨s.list.head, data⟩),
      ⟨node, if s.list.tail = 0 then node else s.list.tail, s.list.length + 1⟩⟩ (node :: nodes) :=
    ⟨chain₁, tail₁, by simp [inv.length]⟩
  refine ⟨node :: nodes, inv', ?_⟩
  rw [inv'.contents_eq, inv.contents_eq, List.map_cons, dataAt_update_self]
  refine congrArg (fun l => (ListReply.returned true, (node, data) :: l)) ?_
  exact List.map_congr_left fun a mem => by
    rw [dataAt_update_of_ne (fun same : a = node => out (same ▸ mem))]

theorem listInsertAfter_eq {prevNode node data : Nat} {prev : ListNode} (pz : prevNode ≠ 0)
    (ok : data ≠ 0) (nz : node ≠ 0) (cell : s.heap prevNode = some prev)
    (apart : prevNode ≠ node) :
    listInsertAfter s prevNode node data = (.returned true,
      ⟨Function.update (Function.update s.heap node (some ⟨prev.next, data⟩)) prevNode
          (some { prev with next := node }),
        ⟨s.list.head, if s.list.tail = prevNode then node else s.list.tail,
          s.list.length + 1⟩⟩) := by
  have cell₁ : Function.update s.heap node (some ⟨prev.next, data⟩) prevNode = some prev := by
    rw [Function.update_of_ne apart, cell]
  simp only [listInsertAfter, if_neg (not_or.2 ⟨pz, ok⟩), if_neg nz, cell, setNext_eq cell₁]

/-- The pair put after the first pair at `p`, on a list with no `p` before it. -/
theorem insertAfterNode_append {p : Nat} {l : List (Nat × Nat)} (none : ∀ x ∈ l, x.1 ≠ p)
    (v : Nat) (e : Nat × Nat) (rest : List (Nat × Nat)) :
    insertAfterNode p e (l ++ (p, v) :: rest) = l ++ (p, v) :: e :: rest := by
  induction l with
  | nil => simp [insertAfterNode]
  | cons x l ih =>
    have later : ∀ y ∈ l, y.1 ≠ p := fun y mem => none y (List.mem_cons_of_mem _ mem)
    simp [insertAfterNode, none x List.mem_cons_self, ih later]

/-- `list_insert_after` adds a node after a node of the list, and moves `tail` when that node
was the last. -/
theorem insertAfter_refines (inv : Inv s nodes) {prevNode node data : Nat}
    (mem : prevNode ∈ (contents s).map Prod.fst) (ok : data ≠ 0) (nz : node ≠ 0)
    (fresh : s.heap node = none) :
    ∃ nodes', Inv (listInsertAfter s prevNode node data).2 nodes' ∧
      specStep (contents s) (.insertAfter prevNode node data) =
        ((listInsertAfter s prevNode node data).1,
          contents (listInsertAfter s prevNode node data).2) := by
  have out : node ∉ nodes := inv.chain.not_mem_of_fresh fresh
  rw [inv.contents_eq, List.map_map] at mem
  have on : prevNode ∈ nodes := by simpa using mem
  obtain ⟨pre, post, rfl⟩ := List.append_of_mem on
  -- the chain up to `prevNode`, and on from it
  obtain ⟨y, front, back⟩ := inv.chain.split
  obtain ⟨same, pz, prev, cell, rest⟩ := back.cons_inv
  rw [same] at front
  have nodup := inv.nodup
  have p_pre : prevNode ∉ pre := (List.nodup_middle.1 nodup |> List.nodup_cons.1).1 ∘
    List.mem_append_left _
  have p_post : prevNode ∉ post := (List.nodup_middle.1 nodup |> List.nodup_cons.1).1 ∘
    List.mem_append_right _
  have apart : prevNode ≠ node := fun same => out (same ▸ on)
  have n_pre : node ∉ pre := fun m => out (List.mem_append_left _ m)
  have n_post : node ∉ post := fun m => out (List.mem_append_right _ (List.mem_cons_of_mem _ m))
  rw [listInsertAfter_eq pz ok nz cell apart]
  have cell₁ : Function.update s.heap node (some ⟨prev.next, data⟩) node = some ⟨prev.next, data⟩ :=
    Function.update_self ..
  have prev₁ : Function.update s.heap node (some ⟨prev.next, data⟩) prevNode = some prev := by
    rw [Function.update_of_ne apart, cell]
  have chain₂ := chain_relink prev (front.update_of_not_mem n_pre _) pz
    (.cons nz cell₁ (rest.update_of_not_mem n_post _)) p_pre
    (List.not_mem_cons_of_ne_of_not_mem apart p_post)
  have inv' : Inv ⟨Function.update (Function.update s.heap node (some ⟨prev.next, data⟩)) prevNode
        (some { prev with next := node }),
      ⟨s.list.head, if s.list.tail = prevNode then node else s.list.tail, s.list.length + 1⟩⟩
      (pre ++ prevNode :: node :: post) := by
    refine ⟨chain₂, ?_, by simp [inv.length]; omega⟩
    dsimp only
    rw [inv.tail, lastD_relink nodup]
    simp [List.getLast?_append, List.getLast?_cons]
  refine ⟨_, inv', ?_⟩
  have none_pre : ∀ x ∈ pre.map (fun a => (a, dataAt s.heap a)), x.1 ≠ prevNode := by
    intro x mem
    obtain ⟨a, on_pre, rfl⟩ := List.mem_map.1 mem
    exact fun same => p_pre (same ▸ on_pre)
  rw [inv'.contents_eq, inv.contents_eq]
  simp only [dataAt_update_next prev₁ node]
  simp only [specStep, List.map_append, List.map_cons, insertAfterNode_append none_pre,
    map_dataAt_update_of_not_mem n_pre, map_dataAt_update_of_not_mem n_post, dataAt_update_self,
    dataAt_update_of_ne apart]

/-! ### `list_remove` -/

/-- The abstract list with no pair of data `data`. -/
theorem specStep_remove_of_none {data : Nat} {l : List (Nat × Nat)} (miss : ∀ x ∈ l, x.2 ≠ data) :
    specStep l (.remove data) = (.returned false, l) := by
  have none : ∀ x ∈ l, ¬ (x.2 == data) = true := fun x mem => by simpa using miss x mem
  simp only [specStep, List.eraseP_of_forall_not none, Prod.mk.injEq, and_true]
  exact congrArg ListReply.returned (List.any_eq_false.2 none)

/-- The abstract list whose first pair of data `data` follows `l`. -/
theorem specStep_remove_of_first {data : Nat} {l : List (Nat × Nat)} (miss : ∀ x ∈ l, x.2 ≠ data)
    (a : Nat) (rest : List (Nat × Nat)) :
    specStep (l ++ (a, data) :: rest) (.remove data) = (.returned true, l ++ rest) := by
  have none : ∀ x ∈ l, ¬ (x.2 == data) = true := fun x mem => by simpa using miss x mem
  simp [specStep, List.eraseP_append_right _ none]

/-- Nodes whose data pointers are not `data` make pairs whose data is not `data`. -/
theorem pairs_miss {heap : Nat → Option ListNode} {data : Nat} {l : List Nat}
    (miss : ∀ a ∈ l, dataAt heap a ≠ data) : ∀ x ∈ l.map (fun a => (a, dataAt heap a)), x.2 ≠ data := by
  intro x mem
  obtain ⟨a, on, rfl⟩ := List.mem_map.1 mem
  exact miss a on

theorem removeAfter_succ_zero (data fuel prev : Nat) :
    removeAfter data (fuel + 1) s prev 0 = (.returned false, s) := by
  simp [removeAfter]

theorem removeAfter_succ_of_miss {data fuel prev a : Nat} {an : ListNode} (az : a ≠ 0)
    (cell : s.heap a = some an) (miss : an.data ≠ data) :
    removeAfter data (fuel + 1) s prev a = removeAfter data fuel s a an.next := by
  simp [removeAfter, az, cell, miss]

theorem removeAfter_succ_of_hit {data fuel prev a : Nat} {an pn : ListNode} (az : a ≠ 0)
    (cell : s.heap a = some an) (hit : an.data = data) (prevCell : s.heap prev = some pn)
    (apart : prev ≠ a) :
    removeAfter data (fuel + 1) s prev a = (.returned true,
      ⟨Function.update (Function.update s.heap a none) prev (some { pn with next := an.next }),
        ⟨s.list.head, if s.list.tail = a then prev else s.list.tail, s.list.length - 1⟩⟩) := by
  have prev₁ : Function.update s.heap a none prev = some pn := by
    rw [Function.update_of_ne apart, prevCell]
  simp [removeAfter, az, cell, hit, listFreeNode, setNext_eq prev₁]

/-- The loop of `list_remove` past the head. From `prev`, a node after no node with data `data`
and itself without, it finds the first node after `prev` with data `data`, unlinks and frees it.
The induction is on the nodes still ahead; the fuel left outlasts them. -/
theorem removeAfter_refines {data : Nat} {post : List Nat} :
    ∀ {pre : List Nat} {prev node fuel : Nat}, Inv s (pre ++ prev :: post) →
      (∀ a ∈ pre ++ [prev], dataAt s.heap a ≠ data) →
      Seg 0 ListNode.next s.heap node post 0 → post.length < fuel →
      ∃ nodes', Inv (removeAfter data fuel s prev node).2 nodes' ∧
        specStep (contents s) (.remove data) =
          ((removeAfter data fuel s prev node).1, contents (removeAfter data fuel s prev node).2) := by
  induction post with
  | nil =>
    intro pre prev node fuel inv miss ahead enough
    -- the walk reaches `NULL`: nothing matched
    cases ahead
    obtain ⟨fuel, rfl⟩ : ∃ f, fuel = f + 1 := ⟨fuel - 1, by simp at enough; omega⟩
    rw [removeAfter_succ_zero]
    dsimp only
    rw [inv.contents_eq, specStep_remove_of_none (pairs_miss miss)]
    exact ⟨_, inv, rfl⟩
  | cons a post ih =>
    intro pre prev node fuel inv miss ahead enough
    obtain ⟨rfl, az, an, cell, rest⟩ := ahead.cons_inv
    obtain ⟨fuel, rfl⟩ : ∃ f, fuel = f + 1 := ⟨fuel - 1, by simp at enough; omega⟩
    have data_a : dataAt s.heap node = an.data := by simp [dataAt, cell]
    by_cases hit : an.data = data
    · -- `node` goes: `prev` now points past it
      obtain ⟨y, front, back⟩ := inv.chain.split
      obtain ⟨same, pz, pn, prevCell, -⟩ := back.cons_inv
      rw [same] at front
      have nodup := inv.nodup
      rw [List.nodup_middle, List.nodup_cons, List.nodup_middle, List.nodup_cons] at nodup
      simp only [List.mem_append, List.mem_cons, not_or] at nodup
      obtain ⟨⟨p_pre, p_node, p_post⟩, ⟨a_pre, a_post⟩, -⟩ := nodup
      rw [removeAfter_succ_of_hit az cell hit prevCell p_node]
      have last := lastD_relink (by simpa using inv.nodup : ((pre ++ [prev]) ++ node :: post).Nodup)
        prev
      rw [List.append_assoc, List.singleton_append] at last
      have inv' : Inv ⟨Function.update (Function.update s.heap node none) prev
            (some { pn with next := an.next }),
          ⟨s.list.head, if s.list.tail = node then prev else s.list.tail, s.list.length - 1⟩⟩
          (pre ++ prev :: post) := by
        refine ⟨chain_relink pn (front.update_of_not_mem a_pre none) pz
          (rest.update_of_not_mem a_post none) p_pre p_post, ?_, by simp [inv.length]⟩
        dsimp only
        rw [inv.tail, last]
        simp [List.getLast?_append, List.getLast?_cons]
      refine ⟨_, inv', ?_⟩
      have prev₁ : Function.update s.heap node none prev = some pn := by
        rw [Function.update_of_ne p_node, prevCell]
      have before : contents s = (pre ++ [prev]).map (fun a => (a, dataAt s.heap a)) ++
          (node, data) :: post.map fun a => (a, dataAt s.heap a) := by
        simp [inv.contents_eq, data_a, hit]
      rw [before, specStep_remove_of_first (pairs_miss miss), inv'.contents_eq]
      simp only [dataAt_update_next prev₁ an.next]
      rw [map_dataAt_update_of_not_mem (by simp [a_pre, Ne.symm p_node, a_post])]
      simp
    · -- on to the next node, which joins those already passed
      rw [removeAfter_succ_of_miss az cell hit]
      have inv₂ : Inv s (pre ++ [prev] ++ node :: post) := by rwa [List.append_cons] at inv
      refine ih inv₂ (fun b mem => ?_) rest (by simpa using enough)
      rcases List.mem_append.1 mem with passed | now
      · exact miss b passed
      · rw [List.mem_singleton.1 now, data_a]
        exact hit

theorem listRemove_of_hit {data : Nat} {hn : ListNode} (ok : data ≠ 0) (nonempty : s.list.length ≠ 0)
    (cell : s.heap s.list.head = some hn) (hit : hn.data = data) :
    listRemove s data = (.returned true, ⟨Function.update s.heap s.list.head none,
      ⟨hn.next, if s.list.tail = s.list.head then hn.next else s.list.tail, s.list.length - 1⟩⟩) := by
  simp [listRemove, ok, nonempty, cell, hit, listFreeNode]

theorem listRemove_of_miss {data : Nat} {hn : ListNode} (ok : data ≠ 0)
    (nonempty : s.list.length ≠ 0) (cell : s.heap s.list.head = some hn) (miss : hn.data ≠ data) :
    listRemove s data = removeAfter data s.list.length s s.list.head hn.next := by
  simp [listRemove, ok, nonempty, cell, miss]

/-- `list_remove` unlinks and frees the first node with data `data`, and answers whether there
was one. -/
theorem remove_refines (inv : Inv s nodes) {data : Nat} (ok : data ≠ 0) :
    ∃ nodes', Inv (listRemove s data).2 nodes' ∧
      specStep (contents s) (.remove data) =
        ((listRemove s data).1, contents (listRemove s data).2) := by
  cases nodes with
  | nil =>
    have empty : s.list.length = 0 := inv.length
    have : listRemove s data = (.returned false, s) := by simp [listRemove, ok, empty]
    rw [this, inv.contents_eq]
    exact ⟨[], inv, rfl⟩
  | cons h rest =>
    obtain ⟨same, hz, hn, cell, after⟩ := inv.chain.cons_inv
    have nonempty : s.list.length ≠ 0 := by simp [inv.length]
    rw [← same] at cell
    have data_h : dataAt s.heap s.list.head = hn.data := by simp [dataAt, cell]
    by_cases hit : hn.data = data
    · -- the head goes: `head` moves on, and `tail` with it when it was the only node
      rw [listRemove_of_hit ok nonempty cell hit]
      have h_rest : h ∉ rest := (List.nodup_cons.1 inv.nodup).1
      have last := lastD_relink (by simpa using inv.nodup : ([] ++ h :: rest).Nodup) hn.next
      have inv' : Inv ⟨Function.update s.heap s.list.head none,
          ⟨hn.next, if s.list.tail = s.list.head then hn.next else s.list.tail, s.list.length - 1⟩⟩
          rest := by
        refine ⟨by rw [same]; exact after.update_of_not_mem h_rest none, ?_, by simp [inv.length]⟩
        dsimp only
        rw [inv.tail, same]
        simp only [List.nil_append] at last
        rw [last]
        cases rest with
        | nil => simpa using (after.head_eq_null).2 rfl
        | cons b rest => simp [List.getLast?_cons]
      refine ⟨rest, inv', ?_⟩
      have before : contents s = [] ++ (h, data) :: rest.map fun a => (a, dataAt s.heap a) := by
        simp [inv.contents_eq, ← same, data_h, hit]
      rw [before, specStep_remove_of_first (by simp) h, inv'.contents_eq, same,
        map_dataAt_update_of_not_mem h_rest]
      rfl
    · -- the loop walks on from the head
      rw [listRemove_of_miss ok nonempty cell hit]
      rw [same]
      refine removeAfter_refines (show Inv s ([] ++ h :: rest) from inv) (fun b mem => ?_) after
        (by simp [inv.length])
      have head : b = h := by simpa using mem
      rw [head, ← same, data_h]
      exact hit

/-! ### `list_clear` -/

/-- The loop of `list_clear` frees a whole chain, given fuel for each node and one more to see
`NULL`. The induction is on the chain, whose head each iteration frees. -/
theorem clearFrom_isSome {l : List Nat} :
    ∀ {s : ListState} {node fuel : Nat}, Seg 0 ListNode.next s.heap node l 0 → l.length < fuel →
      (clearFrom fuel s node).isSome := by
  induction l with
  | nil =>
    intro s node fuel chain enough
    obtain ⟨fuel, rfl⟩ : ∃ f, fuel = f + 1 := ⟨fuel - 1, by simp at enough; omega⟩
    simp [clearFrom, chain.head_eq_null.2 rfl]
  | cons a l ih =>
    intro s node fuel chain enough
    obtain ⟨fuel, rfl⟩ : ∃ f, fuel = f + 1 := ⟨fuel - 1, by simp at enough; omega⟩
    have a_l : a ∉ l := (List.nodup_cons.1 chain.chain_nodup).1
    obtain ⟨rfl, az, an, cell, rest⟩ := chain.cons_inv
    simp only [clearFrom, if_neg az, listFreeNode, cell, Option.map_some]
    exact ih (rest.update_of_not_mem a_l none) (by simpa using enough)

/-- `list_clear` empties the list. -/
theorem clear_refines (inv : Inv s nodes) :
    ∃ nodes', Inv (listClear s).2 nodes' ∧
      specStep (contents s) .clear = ((listClear s).1, contents (listClear s).2) := by
  have ends : (clearFrom (s.list.length + 1) s s.list.head).isSome :=
    clearFrom_isSome inv.chain (by rw [inv.length]; omega)
  obtain ⟨s', freed⟩ := Option.isSome_iff_exists.1 ends
  have inv' : Inv ⟨s'.heap, { s'.list with head := 0, tail := 0, length := 0 }⟩ [] :=
    ⟨.nil 0, rfl, rfl⟩
  simp only [listClear, freed]
  exact ⟨[], inv', by rw [inv'.contents_eq]; rfl⟩

/-- **One call.** Every call allowed from a list with the invariant keeps it, returns what the
abstract list returns, and leaves the abstract list's next state as what the list holds. -/
theorem step_refines {op : ListOp} (inv : Inv s nodes) (allowed : Allowed s op) :
    ∃ nodes', Inv (step s op).2 nodes' ∧
      specStep (contents s) op = ((step s op).1, contents (step s op).2) := by
  cases op with
  | append node data => exact append_refines inv allowed.1 allowed.2.1 allowed.2.2
  | prepend node data => exact prepend_refines inv allowed.1 allowed.2.1 allowed.2.2
  | insertAfter prevNode node data =>
    exact insertAfter_refines inv allowed.1 allowed.2.1 allowed.2.2.1 allowed.2.2.2
  | remove data => exact remove_refines inv allowed
  | clear => exact clear_refines inv

end Calls

/-! ## Every sequence of calls -/

/-- **The list keeps its representation and refines the abstract list.** After every sequence of
allowed calls from a list with the invariant, from `head` the `next` pointers visit a chain of
distinct nodes that reaches `NULL`, whose last node is `tail`; `tail` is `NULL` exactly when
`head` is; `length` counts the nodes. The calls return what the abstract list returns, `true`
from `list_remove` exactly when a node held the data pointer, and the list then holds the
abstract list's pairs of node and data pointer. -/
theorem list_ops_keep_representation {s : ListState} {nodes : List Nat} (inv : Inv s nodes)
    {ops : List ListOp} (allowed : Lts.Allowed Allowed step s ops) :
    let t := (Lts.replay step s ops).2
    (∃ nodes', Seg 0 ListNode.next t.heap t.list.head nodes' 0 ∧ nodes'.Nodup ∧
      t.list.tail = nodes'.getLast?.getD 0 ∧ (t.list.tail = 0 ↔ t.list.head = 0) ∧
      t.list.length = nodes'.length) ∧
    Lts.replay specStep (contents s) ops = ((Lts.replay step s ops).1, contents t) := by
  have preserved : ∀ s op, (∃ nodes, Inv s nodes) → Allowed s op →
      ∃ nodes', Inv (step s op).2 nodes' := fun s op ⟨nodes, inv⟩ allowed =>
    (step_refines inv allowed).imp fun _ both => both.1
  have simulates : ∀ s op, (∃ nodes, Inv s nodes) → Allowed s op →
      specStep (contents s) op = ((step s op).1, contents (step s op).2) :=
    fun s op ⟨nodes, inv⟩ allowed => (step_refines inv allowed).elim fun _ both => both.2
  obtain ⟨nodes', inv'⟩ := Lts.replay_invariant Allowed _ preserved ⟨nodes, inv⟩ allowed
  exact ⟨⟨nodes', inv'.chain, inv'.nodup, inv'.tail, inv'.tail_eq_zero_iff_head, inv'.length⟩,
    Lts.replay_refines Allowed _ contents preserved simulates ⟨nodes, inv⟩ allowed⟩

/-- A new list, given a node with data `7` at address `1` and one with data `8` at address `2`
before it, and then asked to remove `7`. -/
theorem list_ops_keep_representation_new :
    Inv ⟨fun _ => none, ⟨0, 0, 0⟩⟩ [] ∧
      Lts.Allowed Allowed step ⟨fun _ => none, ⟨0, 0, 0⟩⟩
        [.append 1 7, .prepend 2 8, .remove 7] ∧
      let t := (Lts.replay step ⟨fun _ => none, ⟨0, 0, 0⟩⟩ [.append 1 7, .prepend 2 8, .remove 7]).2
      (∃ nodes', Seg 0 ListNode.next t.heap t.list.head nodes' 0 ∧ nodes'.Nodup ∧
        t.list.tail = nodes'.getLast?.getD 0 ∧ (t.list.tail = 0 ↔ t.list.head = 0) ∧
        t.list.length = nodes'.length) ∧
      Lts.replay specStep (contents ⟨fun _ => none, ⟨0, 0, 0⟩⟩)
          [.append 1 7, .prepend 2 8, .remove 7] =
        ((Lts.replay step ⟨fun _ => none, ⟨0, 0, 0⟩⟩ [.append 1 7, .prepend 2 8, .remove 7]).1,
          contents t) := by
  have allowed : Lts.Allowed Allowed step ⟨fun _ => none, ⟨0, 0, 0⟩⟩
      [.append 1 7, .prepend 2 8, .remove 7] := by
    simp [Lts.allowed_cons, Allowed, step, listAppend, listPrepend, Function.update]
  exact ⟨inv_empty _, allowed, list_ops_keep_representation (inv_empty _) allowed⟩

end Osi

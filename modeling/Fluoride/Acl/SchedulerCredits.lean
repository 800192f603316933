import Mathlib.Algebra.BigOperators.Group.Finset.Basic
import Fluoride.Lib.Machine
import Fluoride.Acl.RoundRobinScheduler

/-!
# Credits of the ACL round-robin scheduler

With `drop_acl_fragment_on_disconnect` set, every state reached from a new scheduler keeps
the books of the controller's buffers (`SchedulerInv`):

* for each transport, the free credits and the fragments the controller holds for the
  registered connections of that transport add up to the controller's buffer count;
* a connection's `number_of_sent_packets_` is what the controller holds for it and what waits
  in the queue;
* the queue holds the fragments of one packet of a registered connection, the enqueue callback
  is registered only while the queue is not empty and its transport has a credit, and a
  dequeue callback only while the queue is empty and the connection's transport has a credit.

So the assertions of `handle_enqueue_next_fragment` never fail
(`handleEnqueueNextFragment_isSome`) and the credits stay within the buffer count
(`credits_le_maxCredits`). Without the flag, `Unregister` gives back the credits of fragments
still queued, which are sent afterwards.
-/

namespace Acl

open RoundRobinScheduler

/-! ## Frames -/

/-- The part of a connection's entry that the credit accounting reads. -/
def AclQueueHandler.books (entry : AclQueueHandler) : ConnectionType × UInt16 :=
  (entry.connectionType, entry.numberOfSentPackets)

/-- Two scheduler states that agree on everything the credit accounting reads. -/
structure SameBooks (s s' : RoundRobinScheduler) : Prop where
  credits : ∀ type, s'.credits type = s.credits type
  maxCredits : ∀ type, s'.maxCredits type = s.maxCredits type
  queue : s'.fragmentsToSend = s.fragmentsToSend
  books : ∀ h, (s'.aclQueueHandlers h).map AclQueueHandler.books =
    (s.aclQueueHandlers h).map AclQueueHandler.books

theorem SameBooks.refl (s : RoundRobinScheduler) : SameBooks s s :=
  ⟨fun _ => rfl, fun _ => rfl, rfl, fun _ => rfl⟩

theorem SameBooks.trans {s s' s'' : RoundRobinScheduler} (h₁ : SameBooks s s')
    (h₂ : SameBooks s' s'') : SameBooks s s'' :=
  ⟨fun t => (h₂.credits t).trans (h₁.credits t), fun t => (h₂.maxCredits t).trans (h₁.maxCredits t),
    h₂.queue.trans h₁.queue, fun h => (h₂.books h).trans (h₁.books h)⟩

variable {s : RoundRobinScheduler}

theorem map_books_map (f : AclQueueHandler → AclQueueHandler)
    (hf : ∀ entry, (f entry).books = entry.books) (o : Option AclQueueHandler) :
    (o.map f).map AclQueueHandler.books = o.map AclQueueHandler.books := by
  cases o with
  | none => rfl
  | some entry => exact congrArg some (hf entry)

@[simp] theorem aclQueueHandlers_setHandler (h h' : UInt16) (entry : Option AclQueueHandler) :
    (s.setHandler h entry).aclQueueHandlers h' = if h' = h then entry else s.aclQueueHandlers h' :=
  Function.update_apply _ _ _ _

@[simp] theorem credits_setCredits (type type' : ConnectionType) (v : UInt16) :
    (s.setCredits type v).credits type' = if type' = type then v else s.credits type' := by
  cases type <;> cases type' <;> rfl

@[simp] theorem maxCredits_setCredits (type type' : ConnectionType) (v : UInt16) :
    (s.setCredits type v).maxCredits type' = s.maxCredits type' := by
  cases type <;> cases type' <;> rfl

@[simp] theorem aclQueueHandlers_setCredits (type : ConnectionType) (v : UInt16) :
    (s.setCredits type v).aclQueueHandlers = s.aclQueueHandlers := by
  cases type <;> rfl

@[simp] theorem fragmentsToSend_setCredits (type : ConnectionType) (v : UInt16) :
    (s.setCredits type v).fragmentsToSend = s.fragmentsToSend := by
  cases type <;> rfl

@[simp] theorem enqueueRegistered_setCredits (type : ConnectionType) (v : UInt16) :
    (s.setCredits type v).enqueueRegistered = s.enqueueRegistered := by
  cases type <;> rfl

@[simp] theorem credits_setHandler (h : UInt16) (entry : Option AclQueueHandler)
    (type : ConnectionType) : (s.setHandler h entry).credits type = s.credits type := by
  cases type <;> rfl

@[simp] theorem maxCredits_setHandler (h : UInt16) (entry : Option AclQueueHandler)
    (type : ConnectionType) : (s.setHandler h entry).maxCredits type = s.maxCredits type := by
  cases type <;> rfl

@[simp] theorem fragmentsToSend_setHandler (h : UInt16) (entry : Option AclQueueHandler) :
    (s.setHandler h entry).fragmentsToSend = s.fragmentsToSend := rfl

@[simp] theorem aclQueueHandlers_setHandler_self (h : UInt16) (entry : Option AclQueueHandler) :
    (s.setHandler h entry).aclQueueHandlers h = entry :=
  Function.update_self _ _ _

theorem aclQueueHandlers_modifyHandler (h h' : UInt16) (f : AclQueueHandler → AclQueueHandler) :
    (s.modifyHandler h f).aclQueueHandlers h' =
      if h' = h then (s.aclQueueHandlers h).map f else s.aclQueueHandlers h' := by
  rw [modifyHandler, aclQueueHandlers_setHandler]

@[simp] theorem credits_modifyHandler (h : UInt16) (f : AclQueueHandler → AclQueueHandler)
    (type : ConnectionType) : (s.modifyHandler h f).credits type = s.credits type := by
  cases type <;> rfl

@[simp] theorem maxCredits_modifyHandler (h : UInt16) (f : AclQueueHandler → AclQueueHandler)
    (type : ConnectionType) : (s.modifyHandler h f).maxCredits type = s.maxCredits type := by
  cases type <;> rfl

@[simp] theorem fragmentsToSend_modifyHandler (h : UInt16)
    (f : AclQueueHandler → AclQueueHandler) :
    (s.modifyHandler h f).fragmentsToSend = s.fragmentsToSend := rfl

@[simp] theorem enqueueRegistered_modifyHandler (h : UInt16)
    (f : AclQueueHandler → AclQueueHandler) :
    (s.modifyHandler h f).enqueueRegistered = s.enqueueRegistered := rfl

/-- A write of flags through an entry's iterator keeps the books. -/
theorem sameBooks_modifyHandler (h : UInt16) (f : AclQueueHandler → AclQueueHandler)
    (hf : ∀ entry, (f entry).books = entry.books) : SameBooks s (s.modifyHandler h f) := by
  refine ⟨fun t => by cases t <;> rfl, fun t => by cases t <;> rfl, rfl, fun h' => ?_⟩
  rw [aclQueueHandlers_modifyHandler]
  split
  · next same => rw [same, map_books_map f hf]
  · rfl

theorem sameBooks_sendNextFragment : SameBooks s s.sendNextFragment :=
  ⟨fun t => by cases t <;> rfl, fun t => by cases t <;> rfl, rfl, fun _ => rfl⟩

theorem sameBooks_unregisterAllConnections : SameBooks s s.unregisterAllConnections :=
  ⟨fun t => by cases t <;> rfl, fun t => by cases t <;> rfl, rfl,
    fun _ => map_books_map (fun entry => { entry with dequeueIsRegistered := false })
      (fun _ => rfl) _⟩

theorem sameBooks_startRoundRobin : SameBooks s s.startRoundRobin := by
  unfold startRoundRobin
  split
  · exact .refl s
  · split
    · split
      · exact .refl s
      · exact sameBooks_sendNextFragment
    · -- only dequeue flags are set
      refine ⟨fun t => by cases t <;> rfl, fun t => by cases t <;> rfl, rfl, fun _ => ?_⟩
      exact map_books_map _ (fun entry => by split <;> rfl) _

theorem sameBooks_setLinkPriority (h : UInt16) (high : Bool) :
    SameBooks s (s.setLinkPriority h high) :=
  sameBooks_modifyHandler h _ fun _ => rfl

/-! ## The queue and the callbacks -/

/-- What the queue holds and when the callbacks are registered. -/
structure QueueInv (s : RoundRobinScheduler) : Prop where
  registered : ∀ f ∈ s.fragmentsToSend.toList, ∃ entry,
    s.aclQueueHandlers f.handle = some entry ∧ entry.connectionType = f.connectionType
  oneHandle : ∀ f ∈ s.fragmentsToSend.toList, ∀ g ∈ s.fragmentsToSend.toList,
    f.handle = g.handle
  enqueue : s.enqueueRegistered = true → s.fragmentsToSend.toList ≠ [] ∧
    ∀ f ∈ s.fragmentsToSend.toList, s.credits f.connectionType ≠ 0
  dequeue : ∀ h entry, s.aclQueueHandlers h = some entry → entry.dequeueIsRegistered = true →
    s.fragmentsToSend.toList = [] ∧ s.credits entry.connectionType ≠ 0
  builder : ∀ f ∈ s.fragmentsToSend.toList, f.packet.handle = f.handle

/-- The queued fragments all go over one transport. -/
theorem QueueInv.sameType (inv : QueueInv s) {f g : PacketFragment}
    (hf : f ∈ s.fragmentsToSend.toList) (hg : g ∈ s.fragmentsToSend.toList) :
    f.connectionType = g.connectionType := by
  obtain ⟨e, he, ef⟩ := inv.registered f hf
  obtain ⟨e', he', eg⟩ := inv.registered g hg
  rw [inv.oneHandle f hf g hg, he'] at he
  cases he
  rw [← ef, eg]

theorem queueInv_startRoundRobin (inv : QueueInv s) : QueueInv s.startRoundRobin := by
  unfold startRoundRobin
  split
  · exact inv
  · split
    · next f front =>
      split
      · exact inv
      · next hasCredit =>
        -- the enqueue callback: every queued fragment shares the front's transport
        have mem := TwoLevelQueue.mem_toList_of_front? front
        exact ⟨inv.registered, inv.oneHandle,
          fun _ => ⟨List.ne_nil_of_mem mem, fun g hg => inv.sameType hg mem ▸ hasCredit⟩,
          inv.dequeue, inv.builder⟩
    · next front =>
      have empty : s.fragmentsToSend.toList = [] := by
        rw [TwoLevelQueue.front?_eq_head?] at front
        exact List.head?_eq_none_iff.1 front
      refine ⟨by simp [empty], by simp [empty], inv.enqueue, fun h entry found reg => ?_,
        inv.builder⟩
      -- a dequeue callback: newly registered ones had a credit
      obtain ⟨old, had, rfl⟩ := Option.map_eq_some_iff.1 found
      show s.fragmentsToSend.toList = [] ∧ s.credits _ ≠ 0
      split at reg
      · next fresh => rw [if_pos fresh]; exact ⟨empty, fresh.2⟩
      · next stale => rw [if_neg stale]; exact inv.dequeue h old had reg

theorem queueInv_unregisterAllConnections (inv : QueueInv s) :
    QueueInv s.unregisterAllConnections := by
  refine ⟨fun f hf => ?_, inv.oneHandle, fun reg => ?_, fun h entry found reg => ?_, inv.builder⟩
  · obtain ⟨e, he, same⟩ := inv.registered f hf
    exact ⟨{ e with dequeueIsRegistered := false }, by simp [unregisterAllConnections, he], same⟩
  · obtain ⟨nonempty, credit⟩ := inv.enqueue reg
    exact ⟨nonempty, fun f hf => sameBooks_unregisterAllConnections.credits _ ▸ credit f hf⟩
  · obtain ⟨old, -, rfl⟩ := Option.map_eq_some_iff.1 found
    nomatch reg

/-- The part of a connection's entry that the callbacks read. -/
def AclQueueHandler.flags (entry : AclQueueHandler) : ConnectionType × Bool :=
  (entry.connectionType, entry.dequeueIsRegistered)

variable {s' : RoundRobinScheduler}

/-- A step that takes no fragment into the queue, registers the enqueue callback only on a
queue that is not empty, keeps every entry's transport and dequeue callback, and takes no
transport's last credit, keeps `QueueInv`. -/
theorem QueueInv.of_subset (inv : QueueInv s)
    (queue : ∀ f ∈ s'.fragmentsToSend.toList, f ∈ s.fragmentsToSend.toList)
    (enqueue : s'.enqueueRegistered = true →
      s.enqueueRegistered = true ∧ s'.fragmentsToSend.toList ≠ [])
    (flags : ∀ h, (s'.aclQueueHandlers h).map AclQueueHandler.flags =
      (s.aclQueueHandlers h).map AclQueueHandler.flags)
    (credits : ∀ type, s.credits type ≠ 0 → s'.credits type ≠ 0) : QueueInv s' := by
  -- an entry of `s'` has an entry of `s` with the same flags, and the other way round
  have back : ∀ h entry, s'.aclQueueHandlers h = some entry →
      ∃ old, s.aclQueueHandlers h = some old ∧ old.flags = entry.flags := by
    intro h entry found
    have := flags h
    rw [found, Option.map_some] at this
    exact Option.map_eq_some_iff.1 this.symm
  have forth : ∀ h old, s.aclQueueHandlers h = some old →
      ∃ entry, s'.aclQueueHandlers h = some entry ∧ old.flags = entry.flags := by
    intro h old had
    have := flags h
    rw [had, Option.map_some] at this
    obtain ⟨entry, found, same⟩ := Option.map_eq_some_iff.1 this
    exact ⟨entry, found, same.symm⟩
  refine ⟨fun f hf => ?_, fun f hf g hg => inv.oneHandle f (queue f hf) g (queue g hg),
    fun reg => ?_, fun h entry found reg => ?_, fun f hf => inv.builder f (queue f hf)⟩
  · obtain ⟨old, had, type⟩ := inv.registered f (queue f hf)
    obtain ⟨entry, found, same⟩ := forth _ old had
    exact ⟨entry, found, (congrArg Prod.fst same).symm.trans type⟩
  · obtain ⟨reg, nonempty⟩ := enqueue reg
    exact ⟨nonempty, fun f hf => credits _ ((inv.enqueue reg).2 f (queue f hf))⟩
  · obtain ⟨old, had, same⟩ := back h entry found
    have type : old.connectionType = entry.connectionType := congrArg Prod.fst same
    obtain ⟨empty, credit⟩ := inv.dequeue h old had ((congrArg Prod.snd same).trans reg)
    refine ⟨List.eq_nil_iff_forall_not_mem.2 fun f hf => ?_, type ▸ credits _ credit⟩
    rw [empty] at queue
    exact List.not_mem_nil (queue f hf)

/-- The case of `of_subset` where the queue and the enqueue callback stay. -/
theorem QueueInv.of_flags (inv : QueueInv s) (queue : s'.fragmentsToSend = s.fragmentsToSend)
    (enqueue : s'.enqueueRegistered = s.enqueueRegistered)
    (flags : ∀ h, (s'.aclQueueHandlers h).map AclQueueHandler.flags =
      (s.aclQueueHandlers h).map AclQueueHandler.flags)
    (credits : ∀ type, s.credits type ≠ 0 → s'.credits type ≠ 0) : QueueInv s' := by
  refine inv.of_subset (fun f hf => queue ▸ hf) (fun reg => ?_) flags credits
  rw [enqueue] at reg
  exact ⟨reg, queue ▸ (inv.enqueue reg).1⟩

theorem flags_modifyHandler (h : UInt16) (f : AclQueueHandler → AclQueueHandler)
    (hf : ∀ entry, (f entry).flags = entry.flags) (h' : UInt16) :
    ((s.modifyHandler h f).aclQueueHandlers h').map AclQueueHandler.flags =
      (s.aclQueueHandlers h').map AclQueueHandler.flags := by
  rw [aclQueueHandlers_modifyHandler]
  split
  · next same =>
    rw [same]
    cases s.aclQueueHandlers h with
    | none => rfl
    | some entry => exact congrArg some (hf entry)
  · rfl

theorem queueInv_setLinkPriority (inv : QueueInv s) (h : UInt16) (high : Bool) :
    QueueInv (s.setLinkPriority h high) :=
  inv.of_flags rfl rfl (flags_modifyHandler h _ fun _ => rfl) fun _ => id

/-- Raising a transport's credits keeps `QueueInv`. -/
theorem QueueInv.setCredits (inv : QueueInv s) {type : ConnectionType} {v : UInt16}
    (grow : (s.credits type).toNat ≤ v.toNat) : QueueInv (s.setCredits type v) := by
  refine inv.of_flags (by simp) (by simp) (fun _ => by simp) fun type' credit => ?_
  rw [credits_setCredits]
  split
  · next same =>
    subst same
    intro zero
    apply credit
    apply UInt16.toNat_inj.1
    rw [zero] at grow
    simp only [UInt16.toNat_zero] at grow ⊢
    omega
  · exact credit

/-- Erasing a connection none of whose fragments is queued keeps `QueueInv`. -/
theorem QueueInv.setHandler_none (inv : QueueInv s) {handle : UInt16}
    (absent : ∀ f ∈ s.fragmentsToSend.toList, f.handle ≠ handle) :
    QueueInv (s.setHandler handle none) := by
  refine ⟨fun f hf => ?_, inv.oneHandle, inv.enqueue, fun h entry found reg => ?_, inv.builder⟩
  · rw [aclQueueHandlers_setHandler, if_neg (absent f hf)]
    exact inv.registered f hf
  · rw [aclQueueHandlers_setHandler] at found
    split at found
    · cases found
    · exact inv.dequeue h entry found reg

/-- A new connection, its dequeue callback not registered, keeps `QueueInv`. -/
theorem QueueInv.setHandler_fresh (inv : QueueInv s) {handle : UInt16}
    (fresh : s.aclQueueHandlers handle = none) {entry : AclQueueHandler}
    (idle : entry.dequeueIsRegistered = false) :
    QueueInv (s.setHandler handle (some entry)) := by
  refine ⟨fun f hf => ?_, inv.oneHandle, inv.enqueue, fun h e found reg => ?_, inv.builder⟩
  · obtain ⟨old, had, type⟩ := inv.registered f hf
    have other : f.handle ≠ handle := fun same => by rw [same, fresh] at had; cases had
    rw [aclQueueHandlers_setHandler, if_neg other]
    exact ⟨old, had, type⟩
  · rw [aclQueueHandlers_setHandler] at found
    split at found
    · cases found
      rw [idle] at reg
      cases reg
    · exact inv.dequeue h e found reg

/-! ## What each call does -/

theorem handle_of_mem_fragmentBuilders {handle : UInt16} {flag : PacketBoundaryFlag}
    {l : List (List UInt8)} {b : AclBuilder} (hb : b ∈ fragmentBuilders handle flag l) :
    b.handle = handle := by
  induction l generalizing flag with
  | nil => cases hb
  | cons f fs ih =>
    rcases List.mem_cons.1 hb with rfl | rest
    · rfl
    · exact ih rest

/-- Every fragment of a packet carries the connection's handle and transport. -/
theorem mem_packetFragments {handle : UInt16} {entry : AclQueueHandler} {packet : AclPacket}
    {f : PacketFragment} (hf : f ∈ s.packetFragments handle entry packet) :
    f.handle = handle ∧ f.connectionType = entry.connectionType ∧ f.packet.handle = handle := by
  unfold packetFragments at hf
  obtain ⟨b, hb, rfl⟩ := List.mem_map.1 hf
  refine ⟨rfl, rfl, ?_⟩
  split at hb
  · rw [List.mem_singleton.1 hb]
  · exact handle_of_mem_fragmentBuilders hb

theorem register_eq_some {type : ConnectionType} {handle : UInt16}
    (h : s.register type handle = some s') :
    s.aclQueueHandlers handle = none ∧
      let s₁ := s.setHandler handle (some ⟨type, false, 0, false⟩)
      s' = s₁ ∨ s' = s₁.startRoundRobin := by
  unfold register at h
  split at h
  · cases h
  · next fresh =>
    refine ⟨Option.not_isSome_iff_eq_none.1 fresh, ?_⟩
    dsimp only at h ⊢
    split at h <;> cases h
    · exact .inr rfl
    · exact .inl rfl

theorem bufferPacket_eq_some {handle : UInt16} {entry : AclQueueHandler} {packet : AclPacket}
    (found : s.aclQueueHandlers handle = some entry) (h : s.bufferPacket handle packet = some s') :
    let queue := TwoLevelQueue.pushAll PacketFragment.priority s.fragmentsToSend
      (s.packetFragments handle entry packet)
    queue.size ≠ 0 ∧ s' = (({ s with fragmentsToSend := queue }.unregisterAllConnections).modifyHandler
      handle fun e => { e with
        numberOfSentPackets := e.numberOfSentPackets + UInt16.ofNat queue.size }).sendNextFragment := by
  intro queue
  simp only [bufferPacket, found] at h
  split at h
  · cases h
  · next nonempty =>
    cases h
    exact ⟨nonempty, rfl⟩

/-- What `handle_enqueue_next_fragment` does: it hands the front fragment to HCI for one
credit of its transport and pops it; the enqueue callback stays registered only while a next
fragment has a credit. -/
theorem handleEnqueueNextFragment_eq_some {b : AclBuilder} {post : Bool}
    (h : s.handleEnqueueNextFragment = some (s', b, post)) :
    ∃ f, s.fragmentsToSend.front? = some f ∧ s.credits f.connectionType ≠ 0 ∧ b = f.packet ∧
      s' = { s.setCredits f.connectionType (s.credits f.connectionType - 1) with
        fragmentsToSend := s.fragmentsToSend.pop
        enqueueRegistered := s'.enqueueRegistered } ∧
      (s'.enqueueRegistered = true → s.enqueueRegistered = true ∧
        ∃ next, s.fragmentsToSend.pop.front? = some next ∧ s'.credits next.connectionType ≠ 0) := by
  unfold handleEnqueueNextFragment at h
  split at h
  · cases h
  · next f front =>
    dsimp only at h
    split at h
    · cases h
    · next credit =>
      refine ⟨f, front, credit, ?_⟩
      -- the queue after the pop is read through the updated state
      have pop : (s.setCredits f.connectionType (s.credits f.connectionType - 1)).fragmentsToSend.pop =
          s.fragmentsToSend.pop := by rw [fragmentsToSend_setCredits]
      split at h
      · cases h
        exact ⟨rfl, by rw [pop], fun reg => nomatch reg⟩
      · next next popped =>
        rw [pop] at popped
        split at h
        · cases h
          exact ⟨rfl, by rw [pop], fun reg => nomatch reg⟩
        · next hasCredit =>
          cases h
          refine ⟨rfl, by rw [pop], fun reg => ⟨?_, next, popped, hasCredit⟩⟩
          simpa using reg

/-- The drop loop pushes the other connections' fragments again and counts those of `handle`
off the counter. -/
theorem foldl_dropStep (handle : UInt16) (l : List PacketFragment)
    (q : TwoLevelQueue PacketFragment) (n : UInt16) :
    (l.foldl (dropStep handle) (q, n)).1.toList.Perm
        (q.toList ++ l.filter (fun f => f.handle ≠ handle)) ∧
      (l.foldl (dropStep handle) (q, n)).2 =
        n - UInt16.ofNat (l.countP (fun f => f.handle = handle)) := by
  induction l generalizing q n with
  | nil => simp
  | cons f l ih =>
    rw [List.foldl_cons]
    by_cases mine : f.handle = handle
    · rw [dropStep, if_pos mine]
      obtain ⟨perm, count⟩ := ih q (n - 1)
      refine ⟨by simpa [mine] using perm, ?_⟩
      rw [count, List.countP_cons_of_pos (by simpa using mine), sub_sub, UInt16.ofNat_add,
        add_comm]
      rfl
    · rw [dropStep, if_neg mine]
      obtain ⟨perm, count⟩ := ih (q.push f f.priority) n
      refine ⟨perm.trans ?_, ?_⟩
      · have pushed := (TwoLevelQueue.toList_push_perm q f f.priority).append_right
          (l.filter fun f => f.handle ≠ handle)
        simpa [mine] using pushed
      · rw [count, List.countP_cons_of_neg (by simpa using mine)]

/-- What `Unregister` does: after the optional drop, the connection's outstanding packets go
back to its transport's credits and its entry is erased; the round robin is restarted or not. -/
theorem unregister_eq_some {flag : Bool} {handle : UInt16}
    (h : s.unregister flag handle = some s') :
    let s₁ := if flag then s.dropPacketFragments handle else s
    ∃ entry, s₁.aclQueueHandlers handle = some entry ∧
      let s₂ := (s₁.setCredits entry.connectionType
        (s₁.credits entry.connectionType + entry.numberOfSentPackets)).setHandler handle none
      s' = s₂ ∨ s' = s₂.startRoundRobin := by
  unfold unregister at h
  split at h
  · cases h
  · -- the state after the optional drop
    dsimp only at h ⊢
    generalize (if flag then s.dropPacketFragments handle else s) = s₁ at h ⊢
    split at h
    · cases h
    · next entry found =>
      refine ⟨entry, found, ?_⟩
      split at h <;> cases h
      · exact .inr rfl
      · exact .inl rfl

/-- What `incoming_acl_credits` does for a registered connection: its counter goes down by the
credits (to zero at least) and its transport's credits up (to the maximum at most). -/
theorem incomingAclCredits_of_some {handle : UInt16} (credits : UInt16) {entry : AclQueueHandler}
    (found : s.aclQueueHandlers handle = some entry) :
    let sent := if entry.numberOfSentPackets ≥ credits then entry.numberOfSentPackets - credits
      else 0
    let type := entry.connectionType
    let c := s.credits type + credits
    let s₁ := (s.modifyHandler handle fun e => { e with numberOfSentPackets := sent }).setCredits
      type (if c > s.maxCredits type then s.maxCredits type else c)
    s.incomingAclCredits handle credits = s₁ ∨
      s.incomingAclCredits handle credits = s₁.startRoundRobin := by
  intro sent type c s₁
  simp only [incomingAclCredits, found, credits_modifyHandler, maxCredits_modifyHandler]
  by_cases zero : s.credits type = 0
  · rw [if_pos zero]
    exact .inr rfl
  · rw [if_neg zero]
    exact .inl rfl

/-! ## The queue invariant along each call -/

theorem queueInv_register (inv : QueueInv s) {type : ConnectionType} {handle : UInt16}
    (h : s.register type handle = some s') : QueueInv s' := by
  obtain ⟨fresh, step⟩ := register_eq_some h
  have inv₁ := inv.setHandler_fresh fresh
    (show (⟨type, false, 0, false⟩ : AclQueueHandler).dequeueIsRegistered = false from rfl)
  rcases step with rfl | rfl
  · exact inv₁
  · exact queueInv_startRoundRobin inv₁

/-- `buffer_packet` runs on a dequeue callback, so on an empty queue: afterwards the queue holds
the packet's fragments, every dequeue callback is unregistered, and the enqueue one is
registered. -/
theorem queueInv_bufferPacket (inv : QueueInv s) {handle : UInt16} {entry : AclQueueHandler}
    {packet : AclPacket} (found : s.aclQueueHandlers handle = some entry)
    (reg : entry.dequeueIsRegistered = true) (h : s.bufferPacket handle packet = some s') :
    QueueInv s' := by
  obtain ⟨empty, credit⟩ := inv.dequeue handle entry found reg
  obtain ⟨nonempty, hs'⟩ := bufferPacket_eq_some found h
  have queue : s'.fragmentsToSend.toList.Perm (s.packetFragments handle entry packet) := by
    have perm := TwoLevelQueue.toList_pushAll_perm PacketFragment.priority s.fragmentsToSend
      (s.packetFragments handle entry packet)
    rw [empty, List.nil_append] at perm
    rw [hs']
    exact perm
  -- the entries after the call: the same transports, no dequeue callback
  have idle : ∀ h e, s'.aclQueueHandlers h = some e → e.dequeueIsRegistered = false := by
    intro h e found'
    simp only [hs', sendNextFragment, aclQueueHandlers_modifyHandler,
      unregisterAllConnections] at found'
    split at found' <;> simp only [Option.map_map, Option.map_eq_some_iff] at found' <;>
      obtain ⟨_, _, rfl⟩ := found' <;> rfl
  have present : (s'.aclQueueHandlers handle).map AclQueueHandler.connectionType =
      some entry.connectionType := by
    simp [hs', sendNextFragment, aclQueueHandlers_modifyHandler, unregisterAllConnections, found]
  have credits : ∀ type, s'.credits type = s.credits type := by
    intro type
    rw [hs']
    cases type <;> rfl
  refine ⟨fun f hf => ?_, fun f hf g hg => ?_, fun _ => ⟨?_, fun f hf => ?_⟩,
    fun h e found' reg' => ?_, fun f hf => ?_⟩
  · obtain ⟨fh, ft, -⟩ := mem_packetFragments (queue.mem_iff.1 hf)
    rw [fh, ft]
    exact Option.map_eq_some_iff.1 present
  · rw [(mem_packetFragments (queue.mem_iff.1 hf)).1, (mem_packetFragments (queue.mem_iff.1 hg)).1]
  · rw [hs', ← List.length_pos_iff, ← TwoLevelQueue.size_eq_length]
    exact Nat.pos_of_ne_zero nonempty
  · rw [credits, (mem_packetFragments (queue.mem_iff.1 hf)).2.1]
    exact credit
  · rw [idle h e found'] at reg'
    cases reg'
  · obtain ⟨fh, -, fb⟩ := mem_packetFragments (queue.mem_iff.1 hf)
    rw [fb, fh]

/-- `handle_enqueue_next_fragment` runs on the enqueue callback, so on a queue that is not
empty: the fragments left are a part of the old ones, and no dequeue callback was registered. -/
theorem queueInv_handleEnqueueNextFragment (inv : QueueInv s) {b : AclBuilder} {post : Bool}
    (h : s.handleEnqueueNextFragment = some (s', b, post)) : QueueInv s' := by
  obtain ⟨f, front, -, -, hs', enqueue⟩ := handleEnqueueNextFragment_eq_some h
  have mem := TwoLevelQueue.mem_toList_of_front? front
  have popped : s'.fragmentsToSend = s.fragmentsToSend.pop := by rw [hs']
  have tail : ∀ g ∈ s'.fragmentsToSend.toList, g ∈ s.fragmentsToSend.toList := by
    intro g hg
    rw [popped, TwoLevelQueue.toList_pop] at hg
    exact List.mem_of_mem_tail hg
  have handlers : s'.aclQueueHandlers = s.aclQueueHandlers := by
    rw [hs']
    exact aclQueueHandlers_setCredits _ _
  refine ⟨fun g hg => handlers ▸ inv.registered g (tail g hg),
    fun g hg g' hg' => inv.oneHandle g (tail g hg) g' (tail g' hg'), fun reg => ?_,
    fun h e found reg => ?_, fun g hg => inv.builder g (tail g hg)⟩
  · -- the next fragment has a credit, and the others share its transport
    obtain ⟨-, next, front', credit⟩ := enqueue reg
    have nextMem : next ∈ s'.fragmentsToSend.toList := by
      rw [popped]
      exact TwoLevelQueue.mem_toList_of_front? front'
    refine ⟨List.ne_nil_of_mem nextMem, fun g hg => ?_⟩
    rw [inv.sameType (tail g hg) (tail next nextMem)]
    exact credit
  · -- no dequeue callback while the queue held the fragment
    rw [handlers] at found
    exact absurd (inv.dequeue h e found reg).1 (List.ne_nil_of_mem mem)

/-- After `drop_packet_fragments` no fragment of the connection is queued. -/
theorem queueInv_dropPacketFragments (inv : QueueInv s) (handle : UInt16) :
    QueueInv (s.dropPacketFragments handle) ∧
      ∀ f ∈ (s.dropPacketFragments handle).fragmentsToSend.toList, f.handle ≠ handle := by
  unfold dropPacketFragments
  split
  · next empty =>
    rw [TwoLevelQueue.size_eq_length, List.length_eq_zero_iff] at empty
    exact ⟨inv, fun f hf => by rw [empty] at hf; cases hf⟩
  · next nonempty =>
    split
    · next absent =>
      refine ⟨inv, fun f hf same => ?_⟩
      obtain ⟨e, found, -⟩ := inv.registered f hf
      rw [same, absent] at found
      cases found
    · next entry found =>
      dsimp only
      obtain ⟨perm, -⟩ := foldl_dropStep handle s.fragmentsToSend.toList TwoLevelQueue.empty
        entry.numberOfSentPackets
      generalize s.fragmentsToSend.toList.foldl (dropStep handle)
        (TwoLevelQueue.empty, entry.numberOfSentPackets) = dropped at perm ⊢
      rw [TwoLevelQueue.toList_empty, List.nil_append] at perm
      have kept : ∀ f ∈ dropped.1.toList, f ∈ s.fragmentsToSend.toList ∧ f.handle ≠ handle := by
        intro f hf
        simpa using perm.mem_iff.1 hf
      have flags := flags_modifyHandler (s := s) handle
        (fun e => { e with numberOfSentPackets := dropped.2 }) fun _ => rfl
      refine ⟨?_, fun f hf => (kept f hf).2⟩
      split
      · exact inv.of_subset (fun f hf => (kept f hf).1) (fun reg => nomatch reg) flags
          fun type credit => by cases type <;> exact credit
      · next left =>
        refine inv.of_subset (fun f hf => (kept f hf).1) (fun reg => ⟨reg, ?_⟩) flags
          fun type credit => by cases type <;> exact credit
        rw [TwoLevelQueue.size_eq_length, List.length_eq_zero_iff] at left
        exact left

/-! ## The books of the controller's buffers -/

/-- The fragments of a connection waiting in the queue. -/
def RoundRobinScheduler.queued (s : RoundRobinScheduler) (handle : UInt16) : Nat :=
  s.fragmentsToSend.toList.countP fun f => f.handle = handle

/-- What the controller holds for a connection, counted for the connection's transport. -/
def RoundRobinScheduler.held (s : RoundRobinScheduler) (inFlight : UInt16 → Nat)
    (type : ConnectionType) (handle : UInt16) : Nat :=
  if (s.aclQueueHandlers handle).map AclQueueHandler.connectionType = some type then
    inFlight handle
  else 0

/-- What the controller holds for the registered connections of a transport. -/
def RoundRobinScheduler.outstanding (s : RoundRobinScheduler) (inFlight : UInt16 → Nat)
    (type : ConnectionType) : Nat :=
  ∑ handle, s.held inFlight type handle

/-- The credit accounting, for the fragments `inFlight` the controller holds per handle. -/
structure Accounts (s : RoundRobinScheduler) (inFlight : UInt16 → Nat) : Prop where
  credits : ∀ type,
    (s.credits type).toNat + s.outstanding inFlight type = (s.maxCredits type).toNat
  sent : ∀ handle entry, s.aclQueueHandlers handle = some entry →
    entry.numberOfSentPackets.toNat = inFlight handle + s.queued handle
  flushed : ∀ handle, s.aclQueueHandlers handle = none → inFlight handle = 0

variable {i i' : UInt16 → Nat}

theorem map_connectionType_of_books {o o' : Option AclQueueHandler}
    (books : o'.map AclQueueHandler.books = o.map AclQueueHandler.books) :
    o'.map AclQueueHandler.connectionType = o.map AclQueueHandler.connectionType := by
  have := congrArg (Option.map Prod.fst) books
  rw [Option.map_map, Option.map_map] at this
  exact this

theorem exists_of_books {o o' : Option AclQueueHandler}
    (books : o'.map AclQueueHandler.books = o.map AclQueueHandler.books)
    {entry : AclQueueHandler} (found : o' = some entry) :
    ∃ old, o = some old ∧ old.numberOfSentPackets = entry.numberOfSentPackets := by
  rw [found, Option.map_some] at books
  obtain ⟨old, had, eq⟩ := Option.map_eq_some_iff.1 books.symm
  exact ⟨old, had, congrArg Prod.snd eq⟩

theorem eq_none_of_books {o o' : Option AclQueueHandler}
    (books : o'.map AclQueueHandler.books = o.map AclQueueHandler.books) (absent : o' = none) :
    o = none := by
  rw [absent, Option.map_none] at books
  exact Option.map_eq_none_iff.1 books.symm

/-- Changing what one handle counts changes each transport's total by the difference there. -/
theorem outstanding_add_held (handle : UInt16) (type : ConnectionType)
    (off : ∀ h ≠ handle, s'.held i' type h = s.held i type h) :
    s'.outstanding i' type + s.held i type handle =
      s.outstanding i type + s'.held i' type handle := by
  have mem := Finset.mem_univ handle
  unfold outstanding
  rw [← Finset.add_sum_erase _ _ mem, ← Finset.add_sum_erase _ (s.held i type) mem]
  have rest : ∑ h ∈ Finset.univ.erase handle, s'.held i' type h =
      ∑ h ∈ Finset.univ.erase handle, s.held i type h :=
    Finset.sum_congr rfl fun h hh => off h (Finset.ne_of_mem_erase hh)
  rw [rest]
  omega

theorem held_of_type {handle : UInt16} {connectionType : ConnectionType}
    (types : (s.aclQueueHandlers handle).map AclQueueHandler.connectionType = some connectionType)
    (type : ConnectionType) :
    s.held i type handle = if connectionType = type then i handle else 0 := by
  simp [held, types]

theorem held_of_some {handle : UInt16} {entry : AclQueueHandler}
    (found : s.aclQueueHandlers handle = some entry) (type : ConnectionType) :
    s.held i type handle = if entry.connectionType = type then i handle else 0 :=
  held_of_type (by rw [found]; rfl) type

theorem held_of_none {handle : UInt16} (absent : s.aclQueueHandlers handle = none)
    (type : ConnectionType) : s.held i type handle = 0 := by
  simp [held, absent]

/-- What the controller holds for a connection is within its transport's free buffers. -/
theorem Accounts.credits_add_inFlight_le (acc : Accounts s i) {handle : UInt16}
    {entry : AclQueueHandler} (found : s.aclQueueHandlers handle = some entry) :
    (s.credits entry.connectionType).toNat + i handle ≤
      (s.maxCredits entry.connectionType).toNat := by
  have single : s.held i entry.connectionType handle ≤ s.outstanding i entry.connectionType :=
    Finset.single_le_sum (fun _ _ => Nat.zero_le _) (Finset.mem_univ handle)
  rw [held_of_some found, if_pos rfl] at single
  have := acc.credits entry.connectionType
  omega

/-- **The accounting rule of a call.** A call that changes the books, the queue and the
controller's count of one handle only keeps `Accounts` when, at that handle, the credits and
the count move together and the counter matches. -/
theorem Accounts.update (acc : Accounts s i) (handle : UInt16)
    (books : ∀ h ≠ handle, (s'.aclQueueHandlers h).map AclQueueHandler.books =
      (s.aclQueueHandlers h).map AclQueueHandler.books)
    (inFlight : ∀ h ≠ handle, i' h = i h)
    (queued : ∀ h ≠ handle, s'.queued h = s.queued h)
    (maxCredits : ∀ type, s'.maxCredits type = s.maxCredits type)
    (credits : ∀ type, (s'.credits type).toNat + s'.held i' type handle =
      (s.credits type).toNat + s.held i type handle)
    (sent : ∀ entry, s'.aclQueueHandlers handle = some entry →
      entry.numberOfSentPackets.toNat = i' handle + s'.queued handle)
    (flushed : s'.aclQueueHandlers handle = none → i' handle = 0) : Accounts s' i' := by
  refine ⟨fun type => ?_, fun h entry found => ?_, fun h absent => ?_⟩
  · have off : ∀ h ≠ handle, s'.held i' type h = s.held i type h := by
      intro h other
      unfold held
      rw [map_connectionType_of_books (books h other), inFlight h other]
    have sums := outstanding_add_held handle type off
    have before := acc.credits type
    have here := credits type
    rw [maxCredits type]
    omega
  · by_cases same : h = handle
    · subst same
      exact sent entry found
    · obtain ⟨old, had, count⟩ := exists_of_books (books h same) found
      rw [← count, acc.sent h old had, inFlight h same, queued h same]
  · by_cases same : h = handle
    · subst same
      exact flushed absent
    · rw [inFlight h same]
      exact acc.flushed h (eq_none_of_books (books h same) absent)

/-- Calls that keep the books keep `Accounts`. -/
theorem Accounts.of_sameBooks (acc : Accounts s i) (same : SameBooks s s') : Accounts s' i := by
  have queued : ∀ h, s'.queued h = s.queued h := fun h => by rw [queued, queued, same.queue]
  refine acc.update 0 (fun h _ => same.books h) (fun _ _ => rfl) (fun h _ => queued h)
    same.maxCredits (fun type => ?_) (fun entry found => ?_) (fun absent => ?_)
  · rw [same.credits type]
    unfold held
    rw [map_connectionType_of_books (same.books 0)]
  · obtain ⟨old, had, count⟩ := exists_of_books (same.books 0) found
    rw [← count, acc.sent 0 old had, queued]
  · exact acc.flushed 0 (eq_none_of_books (same.books 0) absent)

@[simp] theorem queued_setHandler (h h' : UInt16) (entry : Option AclQueueHandler) :
    (s.setHandler h entry).queued h' = s.queued h' := rfl

@[simp] theorem queued_setCredits (type : ConnectionType) (v : UInt16) (h : UInt16) :
    (s.setCredits type v).queued h = s.queued h := by
  cases type <;> rfl

@[simp] theorem queued_modifyHandler (h h' : UInt16) (f : AclQueueHandler → AclQueueHandler) :
    (s.modifyHandler h f).queued h' = s.queued h' := rfl

theorem queued_eq_zero {handle : UInt16}
    (absent : ∀ f ∈ s.fragmentsToSend.toList, f.handle ≠ handle) : s.queued handle = 0 :=
  List.countP_eq_zero.2 fun f hf same => absent f hf (of_decide_eq_true same)

/-- No fragment of an unregistered handle is queued. -/
theorem QueueInv.not_queued (inv : QueueInv s) {handle : UInt16}
    (absent : s.aclQueueHandlers handle = none) :
    ∀ f ∈ s.fragmentsToSend.toList, f.handle ≠ handle := by
  intro f hf same
  obtain ⟨entry, found, -⟩ := inv.registered f hf
  rw [same, absent] at found
  cases found

/-! ## The accounting along each call -/

theorem accounts_register (acc : Accounts s i) (inv : QueueInv s) {type : ConnectionType}
    {handle : UInt16} (h : s.register type handle = some s') : Accounts s' i := by
  obtain ⟨fresh, step⟩ := register_eq_some h
  have none_queued := queued_eq_zero (inv.not_queued fresh)
  -- a new connection starts with no packet sent and none held by the controller
  have idle := acc.flushed handle fresh
  have acc₁ : Accounts (s.setHandler handle (some ⟨type, false, 0, false⟩)) i := by
    refine acc.update handle (fun h other => by simp [other]) (fun _ _ => rfl)
      (fun _ _ => rfl) (fun _ => by simp) (fun type' => ?_) (fun entry found => ?_)
      (fun absent => by simp at absent)
    · rw [credits_setHandler, held_of_some (aclQueueHandlers_setHandler_self _ _),
        held_of_none fresh, idle, ite_self]
    · rw [aclQueueHandlers_setHandler_self, Option.some.injEq] at found
      subst found
      rw [idle, queued_setHandler, none_queued]
      rfl
  rcases step with rfl | rfl
  · exact acc₁
  · exact acc₁.of_sameBooks sameBooks_startRoundRobin

/-- `buffer_packet` counts the whole queue, which is the packet's fragments since the queue was
empty, into the connection's `number_of_sent_packets_`. -/
theorem accounts_bufferPacket (acc : Accounts s i) (inv : QueueInv s) {handle : UInt16}
    {entry : AclQueueHandler} {packet : AclPacket} (found : s.aclQueueHandlers handle = some entry)
    (reg : entry.dequeueIsRegistered = true)
    (fit : (s.packetFragments handle entry packet).length +
      (s.maxCredits entry.connectionType).toNat < 2 ^ 16)
    (h : s.bufferPacket handle packet = some s') : Accounts s' i := by
  obtain ⟨empty, -⟩ := inv.dequeue handle entry found reg
  obtain ⟨-, hs'⟩ := bufferPacket_eq_some found h
  generalize hq : TwoLevelQueue.pushAll PacketFragment.priority s.fragmentsToSend
    (s.packetFragments handle entry packet) = queue at hs'
  have perm : queue.toList.Perm (s.packetFragments handle entry packet) := by
    have pushed := TwoLevelQueue.toList_pushAll_perm PacketFragment.priority s.fragmentsToSend
      (s.packetFragments handle entry packet)
    rwa [empty, List.nil_append, hq] at pushed
  have size : queue.size = (s.packetFragments handle entry packet).length := by
    rw [TwoLevelQueue.size_eq_length, perm.length_eq]
  -- the queue now holds the packet's fragments and nothing else
  have queued' : ∀ h, s'.queued h = if h = handle then queue.size else 0 := by
    intro h
    rw [hs', TwoLevelQueue.size_eq_length]
    show queue.toList.countP _ = _
    split
    · next same =>
      refine List.countP_eq_length.2 fun f hf => ?_
      rw [same, decide_eq_true_iff]
      exact (mem_packetFragments (perm.mem_iff.1 hf)).1
    · next other =>
      refine List.countP_eq_zero.2 fun f hf mine => other ?_
      rw [← of_decide_eq_true mine]
      exact (mem_packetFragments (perm.mem_iff.1 hf)).1
  have nothing : ∀ h, s.queued h = 0 := fun h => by rw [queued, empty]; rfl
  have handlers' : ∀ h, s'.aclQueueHandlers h = if h = handle then
      (s.aclQueueHandlers h).map fun e => { e with
        dequeueIsRegistered := false
        numberOfSentPackets := e.numberOfSentPackets + UInt16.ofNat queue.size }
      else (s.aclQueueHandlers h).map fun e => { e with dequeueIsRegistered := false } := by
    intro h
    simp only [hs', sendNextFragment, aclQueueHandlers_modifyHandler, unregisterAllConnections]
    split
    · next same =>
      subst same
      rw [Option.map_map]
      rfl
    · rfl
  have credits : ∀ type, s'.credits type = s.credits type := fun type => by
    rw [hs']
    cases type <;> rfl
  refine acc.update handle (fun h other => ?_) (fun _ _ => rfl)
    (fun h other => by rw [queued' h, if_neg other, nothing]) (fun type => ?_)
    (fun type => ?_) (fun e found' => ?_) (fun absent => ?_)
  · rw [handlers' h, if_neg other]
    exact map_books_map (fun e => { e with dequeueIsRegistered := false }) (fun _ => rfl) _
  · rw [hs']
    cases type <;> rfl
  · have types : (s'.aclQueueHandlers handle).map AclQueueHandler.connectionType =
        (s.aclQueueHandlers handle).map AclQueueHandler.connectionType := by
      rw [handlers' handle, if_pos rfl, Option.map_map]
      rfl
    rw [credits, held, held, types]
  · -- the counter grows by the queue's size without wrapping
    rw [handlers' handle, if_pos rfl, found, Option.map_some, Option.some.injEq] at found'
    subst found'
    have held := acc.credits_add_inFlight_le found
    have count := acc.sent handle entry found
    rw [nothing] at count
    have small : (UInt16.ofNat queue.size).toNat = queue.size := by
      rw [UInt16.toNat_ofNat', Nat.mod_eq_of_lt (by omega)]
    have fits : entry.numberOfSentPackets.toNat + (UInt16.ofNat queue.size).toNat < 2 ^ 16 := by
      omega
    rw [queued' handle, if_pos rfl]
    show (entry.numberOfSentPackets + UInt16.ofNat queue.size).toNat = _
    rw [UInt16.toNat_add, Nat.mod_eq_of_lt fits, small, count, Nat.add_zero]
  · rw [handlers' handle, if_pos rfl, found] at absent
    cases absent

theorem toNat_sub_one_of_ne_zero {c : UInt16} (h : c ≠ 0) : (c - 1).toNat = c.toNat - 1 := by
  have pos : 0 < c.toNat := Nat.pos_of_ne_zero fun zero => h (UInt16.toNat_inj.1 zero)
  exact UInt16.toNat_sub_of_le _ _ (UInt16.le_iff_toNat_le.2 pos)

/-- Handing a fragment to HCI moves it from the queue to the controller, for one credit. -/
theorem accounts_handleEnqueueNextFragment (acc : Accounts s i) (inv : QueueInv s)
    {b : AclBuilder} {post : Bool} (h : s.handleEnqueueNextFragment = some (s', b, post)) :
    Accounts s' (Function.update i b.handle (i b.handle + 1)) := by
  obtain ⟨f, front, credit, rfl, hs', -⟩ := handleEnqueueNextFragment_eq_some h
  have mem := TwoLevelQueue.mem_toList_of_front? front
  rw [inv.builder f mem]
  obtain ⟨entry, found, type⟩ := inv.registered f mem
  -- the queue loses its front
  have cons : s.fragmentsToSend.toList = f :: s'.fragmentsToSend.toList := by
    have head := front
    rw [TwoLevelQueue.front?_eq_head?] at head
    have popped : s'.fragmentsToSend.toList = s.fragmentsToSend.toList.tail := by
      rw [hs']
      exact TwoLevelQueue.toList_pop _
    rw [popped]
    exact List.eq_cons_of_mem_head? head
  have queued' : ∀ h, s.queued h = s'.queued h + if f.handle = h then 1 else 0 := by
    intro h
    unfold queued
    rw [cons, List.countP_cons]
    simp
  have handlers : s'.aclQueueHandlers = s.aclQueueHandlers := by
    rw [hs']
    exact aclQueueHandlers_setCredits _ _
  have credits' : ∀ type, s'.credits type = if type = f.connectionType then
      s.credits f.connectionType - 1 else s.credits type := by
    intro type
    rw [hs']
    exact credits_setCredits _ _ _
  refine acc.update f.handle (fun h _ => by rw [handlers]) (fun h other => Function.update_of_ne other _ _)
    (fun h other => by rw [queued' h, if_neg (Ne.symm other), Nat.add_zero])
    (fun type => by rw [hs']; exact maxCredits_setCredits _ _ _) (fun type' => ?_)
    (fun e found' => ?_) (fun absent => ?_)
  · rw [credits', held_of_some (handlers ▸ found), held_of_some found, Function.update_self, type]
    split
    · next same =>
      subst same
      rw [if_pos rfl, if_pos rfl, toNat_sub_one_of_ne_zero credit]
      have pos : 0 < (s.credits f.connectionType).toNat :=
        Nat.pos_of_ne_zero fun zero => credit (UInt16.toNat_inj.1 zero)
      omega
    · next other =>
      rw [if_neg (Ne.symm other), if_neg (Ne.symm other)]
  · rw [handlers, found, Option.some.injEq] at found'
    subst found'
    rw [Function.update_self, acc.sent _ _ found, queued' f.handle, if_pos rfl]
    omega
  · rw [handlers, found] at absent
    cases absent

/-- `drop_packet_fragments` counts the dropped fragments off the connection's counter. -/
theorem accounts_dropPacketFragments (acc : Accounts s i) (handle : UInt16) :
    Accounts (s.dropPacketFragments handle) i := by
  unfold dropPacketFragments
  split
  · exact acc
  · split
    · exact acc
    · next entry found =>
      dsimp only
      obtain ⟨perm, count⟩ := foldl_dropStep handle s.fragmentsToSend.toList TwoLevelQueue.empty
        entry.numberOfSentPackets
      generalize s.fragmentsToSend.toList.foldl (dropStep handle)
        (TwoLevelQueue.empty, entry.numberOfSentPackets) = dropped at perm count ⊢
      rw [TwoLevelQueue.toList_empty, List.nil_append] at perm
      -- the accounting reads neither the enqueue callback nor the order of the queue
      have key : ∀ t : RoundRobinScheduler, t.aclQueueHandlers = (s.modifyHandler handle
          fun e => { e with numberOfSentPackets := dropped.2 }).aclQueueHandlers →
          (∀ type, t.credits type = s.credits type) →
          (∀ type, t.maxCredits type = s.maxCredits type) →
          Accounts { t with fragmentsToSend := dropped.1 } i := by
        intro t handlers credits maxCredits
        have queued' : ∀ h, ({ t with fragmentsToSend := dropped.1 } : RoundRobinScheduler).queued h =
            s.queued h - if h = handle then s.queued h else 0 := by
          intro h
          show dropped.1.toList.countP _ = _
          rw [perm.countP_eq, List.countP_filter]
          split
          · next same =>
            subst same
            rw [Nat.sub_self]
            exact List.countP_eq_zero.2 fun f _ both => by simp at both
          · next other =>
            rw [Nat.sub_zero, queued]
            refine List.countP_congr fun f _ => ?_
            simp only [Bool.and_eq_true, decide_eq_true_eq]
            exact ⟨fun mine => mine.1, fun mine => ⟨mine, mine ▸ other⟩⟩
        refine acc.update handle (fun h other => ?_) (fun _ _ => rfl)
          (fun h other => by rw [queued' h, if_neg other, Nat.sub_zero]) maxCredits
          (fun type => ?_) (fun e found' => ?_) (fun absent => ?_)
        · show (t.aclQueueHandlers h).map _ = _
          rw [handlers, aclQueueHandlers_modifyHandler, if_neg other]
        · have types : (t.aclQueueHandlers handle).map AclQueueHandler.connectionType =
              (s.aclQueueHandlers handle).map AclQueueHandler.connectionType := by
            rw [handlers, aclQueueHandlers_modifyHandler, if_pos rfl, Option.map_map]
            rfl
          show (t.credits type).toNat + (if (t.aclQueueHandlers handle).map _ = _ then _ else _) = _
          rw [credits, types]
          rfl
        · -- the counter goes down by the fragments dropped, all of which were counted
          change t.aclQueueHandlers handle = some e at found'
          rw [handlers, aclQueueHandlers_modifyHandler, if_pos rfl, found, Option.map_some,
            Option.some.injEq] at found'
          subst found'
          have before := acc.sent handle entry found
          have small : (UInt16.ofNat (s.queued handle)).toNat = s.queued handle := by
            rw [UInt16.toNat_ofNat', Nat.mod_eq_of_lt]
            have := UInt16.toNat_lt entry.numberOfSentPackets
            omega
          rw [queued' handle, if_pos rfl, Nat.sub_self, Nat.add_zero]
          have le : UInt16.ofNat (s.queued handle) ≤ entry.numberOfSentPackets :=
            UInt16.le_iff_toNat_le.2 (by omega)
          show (dropped.2).toNat = i handle
          rw [count, ← queued, UInt16.toNat_sub_of_le _ _ le, small]
          omega
        · change t.aclQueueHandlers handle = none at absent
          rw [handlers, aclQueueHandlers_modifyHandler, if_pos rfl, found] at absent
          cases absent
      split
      · exact key _ rfl (fun type => by cases type <;> rfl) (fun type => by cases type <;> rfl)
      · exact key _ rfl (fun type => by cases type <;> rfl) (fun type => by cases type <;> rfl)

/-- With the flag set, `Unregister` gives back exactly what the controller held for the
connection, which the controller drops on the disconnection. -/
theorem unregister_keeps (inv : QueueInv s) (acc : Accounts s i) {handle : UInt16}
    (h : s.unregister true handle = some s') :
    QueueInv s' ∧ Accounts s' (Function.update i handle 0) := by
  obtain ⟨entry, found, step⟩ := unregister_eq_some h
  rw [if_pos rfl] at found step
  obtain ⟨inv₁, dropped⟩ := queueInv_dropPacketFragments inv handle
  have acc₁ := accounts_dropPacketFragments acc handle
  generalize s.dropPacketFragments handle = s₁ at found step inv₁ dropped acc₁
  -- the counter is what the controller holds, and fits beside the credits
  have count : entry.numberOfSentPackets.toNat = i handle := by
    rw [acc₁.sent handle entry found, queued_eq_zero dropped, Nat.add_zero]
  have room := acc₁.credits_add_inFlight_le found
  have sum : (s₁.credits entry.connectionType + entry.numberOfSentPackets).toNat =
      (s₁.credits entry.connectionType).toNat + i handle := by
    have := UInt16.toNat_lt (s₁.maxCredits entry.connectionType)
    rw [UInt16.toNat_add, count, Nat.mod_eq_of_lt (by omega)]
  have inv₂ := (inv₁.setCredits (show _ ≤ _ from sum ▸ Nat.le_add_right _ _)).setHandler_none
    (by rw [fragmentsToSend_setCredits]; exact dropped)
  have acc₂ : Accounts ((s₁.setCredits entry.connectionType (s₁.credits entry.connectionType +
      entry.numberOfSentPackets)).setHandler handle none) (Function.update i handle 0) := by
    refine acc₁.update handle (fun h other => by simp [other])
      (fun h other => Function.update_of_ne other _ _) (fun _ _ => by simp) (fun _ => by simp)
      (fun type => ?_) (fun e found' => by simp at found') (fun _ => Function.update_self _ _ _)
    rw [credits_setHandler, credits_setCredits, held_of_none (aclQueueHandlers_setHandler_self _ _),
      held_of_some found]
    split
    · next same =>
      subst same
      rw [if_pos rfl, sum, Nat.add_zero]
    · next other =>
      rw [if_neg (Ne.symm other)]
  rcases step with rfl | rfl
  · exact ⟨inv₂, acc₂⟩
  · exact ⟨queueInv_startRoundRobin inv₂, acc₂.of_sameBooks sameBooks_startRoundRobin⟩

/-- A completion report for at most what the controller holds gives the credits back without
reaching the clamp, and counts them off the connection's counter. -/
theorem incomingAclCredits_keeps (inv : QueueInv s) (acc : Accounts s i) {handle k : UInt16}
    (reported : k.toNat ≤ i handle) :
    QueueInv (s.incomingAclCredits handle k) ∧
      Accounts (s.incomingAclCredits handle k)
        (Function.update i handle (i handle - k.toNat)) := by
  cases found : s.aclQueueHandlers handle with
  | none =>
    -- the controller holds nothing for an unknown handle, so nothing is reported
    have idle := acc.flushed handle found
    have unchanged : Function.update i handle (i handle - k.toNat) = i := by
      rw [idle, Nat.zero_sub, ← idle, Function.update_eq_self]
    simp only [incomingAclCredits, found, unchanged]
    exact ⟨inv, acc⟩
  | some entry =>
    have count := acc.sent handle entry found
    have room := acc.credits_add_inFlight_le found
    have maxLt := UInt16.toNat_lt (s.maxCredits entry.connectionType)
    have le : k ≤ entry.numberOfSentPackets := UInt16.le_iff_toNat_le.2 (by omega)
    have sum : (s.credits entry.connectionType + k).toNat =
        (s.credits entry.connectionType).toNat + k.toNat := by
      rw [UInt16.toNat_add, Nat.mod_eq_of_lt (by omega)]
    have unclamped : ¬s.credits entry.connectionType + k > s.maxCredits entry.connectionType :=
      fun above => by
        have := UInt16.lt_iff_toNat_lt.1 above
        omega
    -- the state before the optional restart of the round robin
    have keeps : QueueInv ((s.modifyHandler handle fun e => { e with
        numberOfSentPackets := entry.numberOfSentPackets - k }).setCredits entry.connectionType
          (s.credits entry.connectionType + k)) ∧
        Accounts ((s.modifyHandler handle fun e => { e with
          numberOfSentPackets := entry.numberOfSentPackets - k }).setCredits entry.connectionType
            (s.credits entry.connectionType + k)) (Function.update i handle (i handle - k.toNat)) := by
      have inv₁ : QueueInv (s.modifyHandler handle fun e => { e with
          numberOfSentPackets := entry.numberOfSentPackets - k }) :=
        inv.of_flags rfl rfl (flags_modifyHandler handle _ fun _ => rfl)
          fun type credit => by rwa [credits_modifyHandler]
      refine ⟨inv₁.setCredits (by rw [credits_modifyHandler, sum]; omega), ?_⟩
      refine acc.update handle (fun h other => ?_) (fun h other => Function.update_of_ne other _ _)
        (fun _ _ => by simp) (fun _ => by simp) (fun type => ?_) (fun e found' => ?_)
        (fun absent => ?_)
      · rw [aclQueueHandlers_setCredits, aclQueueHandlers_modifyHandler, if_neg other]
      · have types : (((s.modifyHandler handle fun e => { e with
            numberOfSentPackets := entry.numberOfSentPackets - k }).setCredits
              entry.connectionType (s.credits entry.connectionType + k)).aclQueueHandlers
                handle).map AclQueueHandler.connectionType = some entry.connectionType := by
          rw [aclQueueHandlers_setCredits, aclQueueHandlers_modifyHandler, if_pos rfl, found]
          rfl
        rw [credits_setCredits, credits_modifyHandler, held_of_type types, held_of_some found,
          Function.update_self]
        split
        · next same =>
          subst same
          rw [if_pos rfl, if_pos rfl, sum]
          omega
        · next other =>
          rw [if_neg (Ne.symm other), if_neg (Ne.symm other)]
      · rw [aclQueueHandlers_setCredits, aclQueueHandlers_modifyHandler, if_pos rfl, found,
          Option.map_some, Option.some.injEq] at found'
        subst found'
        rw [queued_setCredits, queued_modifyHandler, Function.update_self]
        show (entry.numberOfSentPackets - k).toNat = _
        rw [UInt16.toNat_sub_of_le _ _ le]
        omega
      · rw [aclQueueHandlers_setCredits, aclQueueHandlers_modifyHandler, if_pos rfl, found]
          at absent
        cases absent
    have sent : (if entry.numberOfSentPackets ≥ k then entry.numberOfSentPackets - k else 0) =
        entry.numberOfSentPackets - k := if_pos le
    rcases incomingAclCredits_of_some k found with step | step <;>
      rw [step, sent, if_neg unclamped]
    · exact keeps
    · exact ⟨queueInv_startRoundRobin keeps.1, keeps.2.of_sameBooks sameBooks_startRoundRobin⟩

/-- The assertions of `handle_enqueue_next_fragment` hold on a queue whose front fragment has
a credit. -/
theorem handleEnqueueNextFragment_isSome_of {f : PacketFragment}
    (front : s.fragmentsToSend.front? = some f) (credit : s.credits f.connectionType ≠ 0) :
    s.handleEnqueueNextFragment.isSome := by
  unfold handleEnqueueNextFragment
  rw [front]
  dsimp only
  rw [if_neg credit]
  split
  · rfl
  · split <;> rfl

/-! ## The system -/

namespace AclSystem

variable {sys sys' : AclSystem}

/-- `buffer_packet` is handed only packets whose fragments, counted into the `uint16_t`
counter beside what the controller's buffers hold, do not wrap it. -/
def FragmentsFit (sys : AclSystem) : Event → Prop
  | .bufferPacket handle packet => ∀ entry, sys.scheduler.aclQueueHandlers handle = some entry →
      (sys.scheduler.packetFragments handle entry packet).length +
        (sys.scheduler.maxCredits entry.connectionType).toNat < 2 ^ 16
  | _ => True

/-- The scheduler on its handler, with the value of `drop_acl_fragment_on_disconnect`: the
events that are delivered, whose assertions hold, and whose packets fit the counter. -/
def machine (dropAclFragmentOnDisconnect : Bool) : Lts.Machine AclSystem Event where
  guard sys e := sys.Enabled e ∧ (sys.step dropAclFragmentOnDisconnect e).isSome ∧
    sys.FragmentsFit e
  exec sys e := (sys.step dropAclFragmentOnDisconnect e).getD sys

/-- The invariant of the scheduler and the controller's buffers. -/
structure SchedulerInv (sys : AclSystem) : Prop where
  queue : QueueInv sys.scheduler
  accounts : Accounts sys.scheduler sys.inFlight

theorem schedulerInv_initial (numAclPacketBuffers : UInt16) (aclPacketLength : Nat)
    (totalNumLePackets : UInt16) (leDataPacketLength : Nat) :
    SchedulerInv (initial numAclPacketBuffers aclPacketLength totalNumLePackets
      leDataPacketLength) := by
  refine ⟨⟨?_, ?_, ?_, ?_, ?_⟩, ⟨fun type => ?_, ?_, fun _ _ => rfl⟩⟩
  -- an empty queue, no connection, no callback
  · intro f hf
    nomatch hf
  · intro f hf
    nomatch hf
  · intro reg
    nomatch reg
  · intro h entry found
    nomatch found
  · intro f hf
    nomatch hf
  · -- nothing is held, and every credit is free
    have none_held : (initial numAclPacketBuffers aclPacketLength totalNumLePackets
        leDataPacketLength).scheduler.outstanding (fun _ => 0) type = 0 :=
      Finset.sum_eq_zero fun h _ => ite_self 0
    show _ + (initial numAclPacketBuffers aclPacketLength totalNumLePackets
      leDataPacketLength).scheduler.outstanding (fun _ => 0) type = _
    rw [none_held, Nat.add_zero]
    cases type <;> rfl
  · intro h entry found
    nomatch found

/-- **One event keeps the invariant**, with the flag set. -/
theorem schedulerInv_step (inv : SchedulerInv sys) {e : Event} (enabled : sys.Enabled e)
    (fit : sys.FragmentsFit e) (h : sys.step true e = some sys') : SchedulerInv sys' := by
  cases e with
  | register type handle =>
    obtain ⟨s', ran, rfl⟩ := Option.map_eq_some_iff.1 h
    exact ⟨queueInv_register inv.queue ran, accounts_register inv.accounts inv.queue ran⟩
  | unregister handle =>
    obtain ⟨s', ran, rfl⟩ := Option.map_eq_some_iff.1 h
    obtain ⟨queue, accounts⟩ := unregister_keeps inv.queue inv.accounts ran
    exact ⟨queue, accounts⟩
  | setLinkPriority handle high =>
    cases h
    exact ⟨queueInv_setLinkPriority inv.queue handle high,
      inv.accounts.of_sameBooks (sameBooks_setLinkPriority handle high)⟩
  | bufferPacket handle packet =>
    obtain ⟨entry, found, reg⟩ := enabled
    obtain ⟨s', ran, rfl⟩ := Option.map_eq_some_iff.1 h
    exact ⟨queueInv_bufferPacket inv.queue found reg ran,
      accounts_bufferPacket inv.accounts inv.queue found reg (fit entry found) ran⟩
  | handleEnqueueNextFragment =>
    obtain ⟨⟨s', b, post⟩, ran, rfl⟩ := Option.map_eq_some_iff.1 h
    exact ⟨queueInv_handleEnqueueNextFragment inv.queue ran,
      accounts_handleEnqueueNextFragment inv.accounts inv.queue ran⟩
  | incomingAclCredits handle k =>
    cases h
    obtain ⟨queue, accounts⟩ := incomingAclCredits_keeps inv.queue inv.accounts enabled
    exact ⟨queue, accounts⟩
  | runStartRoundRobin =>
    cases h
    exact ⟨queueInv_startRoundRobin inv.queue,
      inv.accounts.of_sameBooks sameBooks_startRoundRobin⟩

theorem schedulerInv_exec (inv : SchedulerInv sys) {e : Event} (guard : (machine true).guard sys e) :
    SchedulerInv ((machine true).exec sys e) := by
  obtain ⟨enabled, ok, fit⟩ := guard
  obtain ⟨sys', ran⟩ := Option.isSome_iff_exists.1 ok
  show SchedulerInv ((sys.step true e).getD sys)
  rw [ran]
  exact schedulerInv_step inv enabled fit ran

/-- **The invariant holds in every state the system reaches** with the flag set. -/
theorem schedulerInv_reachable {numAclPacketBuffers totalNumLePackets : UInt16}
    {aclPacketLength leDataPacketLength : Nat}
    (h : (machine true).Reachable (initial numAclPacketBuffers aclPacketLength
      totalNumLePackets leDataPacketLength) sys) : SchedulerInv sys :=
  h.invariant (schedulerInv_initial _ _ _ _) fun _ _ inv guard => schedulerInv_exec inv guard

/-- With the flag set, the enqueue callback is never delivered where an assertion of
`handle_enqueue_next_fragment` would fail. -/
theorem handleEnqueueNextFragment_isSome {numAclPacketBuffers totalNumLePackets : UInt16}
    {aclPacketLength leDataPacketLength : Nat}
    (h : (machine true).Reachable (initial numAclPacketBuffers aclPacketLength
      totalNumLePackets leDataPacketLength) sys)
    (reg : sys.scheduler.enqueueRegistered = true) :
    sys.scheduler.handleEnqueueNextFragment.isSome := by
  obtain ⟨nonempty, credit⟩ := (schedulerInv_reachable h).queue.enqueue reg
  have someFront : sys.scheduler.fragmentsToSend.front? ≠ none := by
    rw [TwoLevelQueue.front?_eq_head?, Ne, List.head?_eq_none_iff]
    exact nonempty
  obtain ⟨f, front⟩ := Option.ne_none_iff_exists'.1 someFront
  exact handleEnqueueNextFragment_isSome_of front
    (credit f (TwoLevelQueue.mem_toList_of_front? front))

/-- With the flag set, no transport ever has more credits than the controller has buffers. -/
theorem credits_le_maxCredits {numAclPacketBuffers totalNumLePackets : UInt16}
    {aclPacketLength leDataPacketLength : Nat}
    (h : (machine true).Reachable (initial numAclPacketBuffers aclPacketLength
      totalNumLePackets leDataPacketLength) sys) (type : ConnectionType) :
    sys.scheduler.credits type ≤ sys.scheduler.maxCredits type := by
  have books := (schedulerInv_reachable h).accounts.credits type
  exact UInt16.le_iff_toNat_le.2 (by omega)

/-! ## Without `drop_acl_fragment_on_disconnect` -/

/-- **Without the flag, `Unregister` gives back the credit of a queued fragment.** One
connection on a controller with one classic buffer buffers a one-fragment packet and
disconnects before the fragment is handed to HCI: its `number_of_sent_packets_`, which
counted the queued fragment, is added to the credits, which then exceed the buffers, and the
fragment of the erased connection is still sent. -/
theorem unregister_credits_queued_fragment :
    let sys₀ : AclSystem := initial 1 27 1 27
    let events : List Event :=
      [.register .classic 1, .bufferPacket 1 ⟨[1], false⟩, .unregister 1]
    ∃ sys, (machine false).Run sys₀ events sys ∧
      sys.scheduler.maxCredits .classic = 1 ∧ sys.scheduler.credits .classic = 2 ∧
      sys.scheduler.aclQueueHandlers 1 = none ∧ sys.scheduler.enqueueRegistered = true ∧
      sys.scheduler.handleEnqueueNextFragment.map (fun r => r.2.1.handle) = some 1 := by
  intro sys₀ events
  refine ⟨_, .cons ⟨trivial, rfl, trivial⟩ (.cons ⟨⟨_, rfl, rfl⟩, rfl, fun entry found => ?_⟩
    (.cons ⟨trivial, rfl, trivial⟩ (.nil _))), by decide, by decide, by decide, by decide,
    by decide⟩
  -- the packet's one fragment fits the counter
  cases found
  decide

end AclSystem

end Acl

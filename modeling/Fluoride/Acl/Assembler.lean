import Fluoride.Acl.RoundRobinScheduler
import Fluoride.Lib.Machine

/-!
# Recombining ACL fragments into L2CAP PDUs (`assembler.h`)

One `assembler` per connection turns the ACL packets the controller sends into L2CAP PDUs. A
packet with `FIRST_AUTOMATICALLY_FLUSHABLE` starts a new recombination stage and one with
`CONTINUING_FRAGMENT` appends its payload to it (`PacketView::Append`, which keeps the bytes of
the fragments in order). After each packet the stage is compared with the length its first two
bytes declare: longer is dropped, shorter waits for the next fragment, equal is pushed onto
`incoming_queue_` unless the queue is congested. The upper queue takes PDUs from the front of
`incoming_queue_` through `on_data_ready`, which it calls while the enqueue callback is
registered.

A `PacketView` is modelled by the bytes its fragments hold, in order; the assembler reads them
only through `size()` and `operator[]`.

The results: one step either keeps the queue or pushes one complete L2CAP PDU onto a queue
that held at most `kMaxQueuedPacketsPerConnection` (`onIncomingPacket_cases`); from that, in
every reachable state the callback is registered exactly while the queue is non-empty, every
queued or delivered PDU is complete and the queue holds at most one PDU more than
`kMaxQueuedPacketsPerConnection` (`AclRx.inv_reachable`); a run only appends to the PDUs
delivered and queued (`AclRx.output_prefix_of_run`); and the fragments of one PDU are pushed
as their concatenation (`onIncomingPackets_fragments`).
-/

namespace Acl

/-- `BroadcastFlag` of `hci_packets.pdl`. -/
inductive BroadcastFlag
  | pointToPoint | activePeripheralBroadcast
  deriving DecidableEq, Repr

/-- The fields of an incoming `AclView` that `on_incoming_packet` reads. -/
structure AclView where
  packetBoundaryFlag : PacketBoundaryFlag
  broadcastFlag : BroadcastFlag
  payload : List UInt8
  deriving DecidableEq, Repr

def kMaxQueuedPacketsPerConnection : Nat := 10
def kL2capBasicFrameHeaderSize : Nat := 4

/-- `PacketViewForRecombination`: the bytes of the fragments recombined so far, and whether
the view was made from a first packet. -/
structure PacketViewForRecombination where
  bytes : List UInt8
  receivedFirst : Bool
  deriving DecidableEq, Repr

namespace PacketViewForRecombination

/-- The default constructor: an empty view, with no first packet received. -/
def empty : PacketViewForRecombination := ⟨[], false⟩

/-- The constructor from a `PacketView`, which the assignment of a first payload uses. -/
def ofPacketView (packetView : List UInt8) : PacketViewForRecombination := ⟨packetView, true⟩

/-- `AppendPacketView`, that is `PacketView::Append`. -/
def appendPacketView (v : PacketViewForRecombination) (toAppend : List UInt8) :
    PacketViewForRecombination :=
  { v with bytes := v.bytes ++ toAppend }

end PacketViewForRecombination

/-- `GetL2capPduSize`: the little-endian length field of an L2CAP basic frame, or
`kL2capBasicFrameHeaderSize` when fewer than two bytes are there. -/
def getL2capPduSize (pdu : List UInt8) : Nat :=
  if pdu.length < 2 then kL2capBasicFrameHeaderSize
  else ((pdu.getD 1 0).toNat <<< 8) + (pdu.getD 0 0).toNat

/-- A recombined PDU is complete when its size is the size its header declares. -/
def IsL2capPdu (pdu : List UInt8) : Prop :=
  pdu.length = getL2capPduSize pdu + kL2capBasicFrameHeaderSize

instance : DecidablePred IsL2capPdu := fun _ => inferInstanceAs (Decidable (_ = _))

/-- A stage is waiting for more fragments when it is shorter than it declares. -/
def Waiting (pdu : List UInt8) : Prop :=
  pdu.length < getL2capPduSize pdu + kL2capBasicFrameHeaderSize

instance : DecidablePred Waiting := fun _ => inferInstanceAs (Decidable (_ < _))

theorem getL2capPduSize_of_two_le {pdu : List UInt8} (h : 2 ≤ pdu.length) :
    getL2capPduSize pdu = (pdu.getD 0 0).toNat + 256 * (pdu.getD 1 0).toNat := by
  rw [getL2capPduSize, if_neg (by omega), Nat.shiftLeft_eq]
  omega

/-- A complete PDU is one whose size is four more than the little-endian length in its first
two bytes; a view of fewer than two bytes, which declares 4, is never complete. -/
theorem isL2capPdu_iff (pdu : List UInt8) :
    IsL2capPdu pdu ↔
      2 ≤ pdu.length ∧ pdu.length = 4 + ((pdu.getD 0 0).toNat + 256 * (pdu.getD 1 0).toNat) := by
  by_cases two : 2 ≤ pdu.length
  · rw [IsL2capPdu, getL2capPduSize_of_two_le two, kL2capBasicFrameHeaderSize]
    omega
  · have short : getL2capPduSize pdu = kL2capBasicFrameHeaderSize := if_pos (by omega)
    rw [IsL2capPdu, short, kL2capBasicFrameHeaderSize]
    omega

/-- The state of one `assembler`: the recombination stage, `enqueue_registered_` and
`incoming_queue_`. -/
structure Assembler where
  recombinationStage : PacketViewForRecombination
  enqueueRegistered : Bool
  incomingQueue : List (List UInt8)
  deriving DecidableEq, Repr

namespace Assembler

/-- The assembler the constructor makes. -/
def init : Assembler := ⟨.empty, false, []⟩

/-- `on_data_ready`: the PDU at the front of the queue and the assembler after popping it, which
unregisters the callback once the queue is empty; `none` for the front of an empty queue,
which the source does not guard against. -/
def onDataReady (a : Assembler) : Option (List UInt8 × Assembler) :=
  match a.incomingQueue with
  | [] => none
  | packet :: rest =>
    some (packet, { a with
      incomingQueue := rest
      enqueueRegistered := if rest.isEmpty then false else a.enqueueRegistered })

/-- The end of `on_incoming_packet`, from "Check the size of the packet" on, with the stage the
boundary flag's branch left. -/
def checkSizeAndEnqueue (a : Assembler) (stage : PacketViewForRecombination) : Assembler :=
  let expectedSize := getL2capPduSize stage.bytes + kL2capBasicFrameHeaderSize
  if expectedSize < stage.bytes.length then
    -- "Packet size doesn't match L2CAP header, dropping it."
    { a with recombinationStage := .empty }
  else if expectedSize > stage.bytes.length then
    -- wait for the next fragment
    { a with recombinationStage := stage }
  else if a.incomingQueue.length > kMaxQueuedPacketsPerConnection then
    -- "Dropping packet ... due to congestion"
    { a with recombinationStage := .empty }
  else
    { recombinationStage := .empty
      incomingQueue := a.incomingQueue ++ [stage.bytes]
      enqueueRegistered := true }

/-- `on_incoming_packet`. -/
def onIncomingPacket (a : Assembler) (packet : AclView) : Assembler :=
  if packet.broadcastFlag = .activePeripheralBroadcast then a
  else
    match packet.packetBoundaryFlag with
    | .firstNonAutomaticallyFlushable => a
    | .continuingFragment =>
      -- "Continuing fragment received without previous first, dropping it."
      if a.recombinationStage.receivedFirst then
        a.checkSizeAndEnqueue (a.recombinationStage.appendPacketView packet.payload)
      else a
    | .firstAutomaticallyFlushable =>
      -- a stage in progress is dropped
      a.checkSizeAndEnqueue (.ofPacketView packet.payload)

/-! ## What one packet can do -/

/-- What one call can do to the queue: keep it and the callback's registration, or push one
complete PDU onto a queue of at most `kMaxQueuedPacketsPerConnection` PDUs and register the
callback. -/
def QueueStep (a a' : Assembler) : Prop :=
  (a'.incomingQueue = a.incomingQueue ∧ a'.enqueueRegistered = a.enqueueRegistered) ∨
  ∃ pdu, IsL2capPdu pdu ∧ a.incomingQueue.length ≤ kMaxQueuedPacketsPerConnection ∧
    a'.incomingQueue = a.incomingQueue ++ [pdu] ∧ a'.enqueueRegistered = true

theorem QueueStep.of_queue_eq {a a' : Assembler} (queue : a'.incomingQueue = a.incomingQueue)
    (registered : a'.enqueueRegistered = a.enqueueRegistered) : QueueStep a a' :=
  .inl ⟨queue, registered⟩

/-- **What the size check can do**: only a complete stage is pushed, and only onto a queue
that is not congested. -/
theorem checkSizeAndEnqueue_cases (a : Assembler) (stage : PacketViewForRecombination) :
    QueueStep a (a.checkSizeAndEnqueue stage) := by
  unfold checkSizeAndEnqueue
  dsimp only
  split_ifs with tooLong tooShort congested
  · exact .of_queue_eq rfl rfl
  · exact .of_queue_eq rfl rfl
  · exact .of_queue_eq rfl rfl
  · exact .inr ⟨stage.bytes, by unfold IsL2capPdu; omega, by omega, rfl, rfl⟩

/-- **What one packet can do**: the branches on the flags either drop the packet or hand a
stage to the size check. -/
theorem onIncomingPacket_cases (a : Assembler) (packet : AclView) :
    QueueStep a (a.onIncomingPacket packet) := by
  unfold onIncomingPacket
  by_cases broadcast : packet.broadcastFlag = .activePeripheralBroadcast
  · rw [if_pos broadcast]
    exact .of_queue_eq rfl rfl
  rw [if_neg broadcast]
  split
  · exact .of_queue_eq rfl rfl
  · by_cases first : a.recombinationStage.receivedFirst
    · rw [if_pos first]
      exact checkSizeAndEnqueue_cases a _
    · rw [if_neg first]
      exact .of_queue_eq rfl rfl
  · exact checkSizeAndEnqueue_cases a _

/-- Popping the front keeps the rest of the queue. -/
theorem onDataReady_eq_some {a a' : Assembler} {pdu : List UInt8}
    (h : a.onDataReady = some (pdu, a')) :
    a.incomingQueue = pdu :: a'.incomingQueue ∧
      (a'.enqueueRegistered = true ↔ a'.incomingQueue ≠ [] ∧ a.enqueueRegistered = true) := by
  unfold onDataReady at h
  split at h
  · cases h
  · next packet rest queue =>
    cases h
    refine ⟨queue, ?_⟩
    cases rest <;> simp

/-! ## The assembler's invariant -/

/-- What holds of the assembler between any two calls. -/
structure AssemblerInv (a : Assembler) : Prop where
  registered_iff : a.enqueueRegistered = true ↔ a.incomingQueue ≠ []
  queue_length_le : a.incomingQueue.length ≤ kMaxQueuedPacketsPerConnection + 1
  queued_complete : ∀ pdu ∈ a.incomingQueue, IsL2capPdu pdu

theorem assemblerInv_init : AssemblerInv init :=
  ⟨by simp [init], by simp [init], by simp [init]⟩

theorem AssemblerInv.onIncomingPacket {a : Assembler} (inv : AssemblerInv a)
    (packet : AclView) : AssemblerInv (a.onIncomingPacket packet) := by
  rcases onIncomingPacket_cases a packet with ⟨queue, registered⟩ | ⟨pdu, complete, room, queue,
    registered⟩
  · exact ⟨by rw [queue, registered]; exact inv.registered_iff, queue ▸ inv.queue_length_le,
      queue ▸ inv.queued_complete⟩
  · refine ⟨by simp [queue, registered], by simp [queue]; omega, ?_⟩
    intro q mem
    rw [queue, List.mem_append, List.mem_singleton] at mem
    rcases mem with old | rfl
    · exact inv.queued_complete q old
    · exact complete

/-- On a registered callback the queue has a front, and popping it keeps the invariant. -/
theorem AssemblerInv.onDataReady {a : Assembler} (inv : AssemblerInv a)
    (registered : a.enqueueRegistered = true) :
    ∃ pdu a', a.onDataReady = some (pdu, a') ∧ IsL2capPdu pdu ∧ AssemblerInv a' := by
  obtain ⟨pdu, rest, queue⟩ := List.exists_cons_of_ne_nil (inv.registered_iff.mp registered)
  let a' : Assembler := { a with
    incomingQueue := rest
    enqueueRegistered := if rest.isEmpty then false else a.enqueueRegistered }
  have popped : a.onDataReady = some (pdu, a') := by
    unfold Assembler.onDataReady
    rw [queue]
  obtain ⟨queue', registered'⟩ := onDataReady_eq_some popped
  have front : IsL2capPdu pdu := inv.queued_complete pdu (by simp [queue])
  refine ⟨pdu, a', popped, front, ⟨?_, ?_, ?_⟩⟩
  · rw [registered', registered]
    exact and_iff_left rfl
  · have := inv.queue_length_le
    rw [queue'] at this
    simp at this
    omega
  · intro q mem
    exact inv.queued_complete q (by rw [queue']; exact List.mem_cons_of_mem pdu mem)

end Assembler

/-! ## The assembler and the upper queue -/

/-- The assembler of one connection and the PDUs the upper queue has taken from it. -/
structure AclRx where
  assembler : Assembler
  upper : List (List UInt8)
  deriving DecidableEq, Repr

namespace AclRx

def init : AclRx := ⟨.init, []⟩

/-- A packet from the controller, or the upper queue's call of the registered callback. -/
inductive Event
  | incomingPacket (packet : AclView)
  | dataReady
  deriving DecidableEq, Repr

def exec (s : AclRx) : Event → AclRx
  | .incomingPacket packet => { s with assembler := s.assembler.onIncomingPacket packet }
  | .dataReady =>
    match s.assembler.onDataReady with
    | some (pdu, a) => ⟨a, s.upper ++ [pdu]⟩
    | none => s

/-- The upper queue calls `on_data_ready` only while it is registered. -/
def assemblerMachine : Lts.Machine AclRx Event where
  guard s e := e = .dataReady → s.assembler.enqueueRegistered = true
  exec := exec

/-- The PDUs the assembler has put out: those the upper queue took, then those still queued. -/
def output (s : AclRx) : List (List UInt8) := s.upper ++ s.assembler.incomingQueue

def Inv (s : AclRx) : Prop :=
  Assembler.AssemblerInv s.assembler ∧ ∀ pdu ∈ s.upper, IsL2capPdu pdu

/-- One event keeps the invariant and only appends to the output: a packet appends at most
one PDU, and a callback moves the front of the queue to the upper queue. -/
theorem exec_inv {s : AclRx} {e : Event} (inv : Inv s) (guard : assemblerMachine.guard s e) :
    Inv (exec s e) ∧ s.output <+: (exec s e).output := by
  cases e with
  | incomingPacket packet =>
    refine ⟨⟨inv.1.onIncomingPacket packet, inv.2⟩, ?_⟩
    rcases Assembler.onIncomingPacket_cases s.assembler packet with ⟨queue, -⟩ | ⟨pdu, -, -, queue, -⟩
    · simp [exec, output, queue]
    · simp [exec, output, queue, List.prefix_append]
  | dataReady =>
    obtain ⟨pdu, a', popped, front, inv'⟩ := inv.1.onDataReady (guard rfl)
    have queue := (Assembler.onDataReady_eq_some popped).1
    refine ⟨⟨by simpa [exec, popped] using inv', ?_⟩, ?_⟩
    · intro q mem
      simp only [exec, popped, List.mem_append, List.mem_singleton] at mem
      rcases mem with old | rfl
      · exact inv.2 q old
      · exact front
    · simp [exec, output, popped, queue]

/-- **The invariant holds in every reachable state**: the callback is registered exactly
while the queue is non-empty, so no callback reads the front of an empty queue; every PDU
queued or delivered is complete; and the queue never holds more than
`kMaxQueuedPacketsPerConnection + 1` PDUs. -/
theorem inv_reachable {s : AclRx} (h : assemblerMachine.Reachable init s) : Inv s :=
  h.invariant ⟨Assembler.assemblerInv_init, by simp [init]⟩ fun _ _ inv guard =>
    (exec_inv inv guard).1

/-- Two one-fragment PDUs from the controller, and the upper queue taking the first. -/
theorem inv_reachable_two_pdus :
    let pdu : AclView := ⟨.firstAutomaticallyFlushable, .pointToPoint, [0, 0, 0, 0]⟩
    let s := exec (exec (exec init (.incomingPacket pdu)) (.incomingPacket pdu)) .dataReady
    assemblerMachine.Reachable init s ∧ s.upper.length = 1 ∧
      s.assembler.incomingQueue.length = 1 ∧ Inv s := by
  intro pdu s
  have run : assemblerMachine.Reachable init s :=
    ⟨[.incomingPacket pdu, .incomingPacket pdu, .dataReady],
      .cons (fun h => nomatch h) (.cons (fun h => nomatch h) (.single fun _ => by decide))⟩
  exact ⟨run, by decide, by decide, inv_reachable run⟩

/-- **No PDU is lost, duplicated or reordered**: along a run from a state where the invariant
holds, what was delivered and queued before stays, in order, at the front of what is
delivered and queued after. -/
theorem output_prefix_of_run {s t : AclRx} {es : List Event} (run : assemblerMachine.Run s es t)
    (inv : Inv s) : s.output <+: t.output := by
  have both : Inv t ∧ s.output <+: t.output :=
    run.invariant (P := fun u => Inv u ∧ s.output <+: u.output) ⟨inv, List.prefix_refl _⟩
      fun u _ ⟨invU, pre⟩ guard =>
        ⟨(exec_inv invU guard).1, pre.trans (exec_inv invU guard).2⟩
  exact both.2

/-- Packets from the controller alone run the assembler's fold. -/
theorem run_incomingPackets (s : AclRx) (packets : List AclView) :
    assemblerMachine.Run s (packets.map .incomingPacket)
      ⟨packets.foldl Assembler.onIncomingPacket s.assembler, s.upper⟩ := by
  induction packets generalizing s with
  | nil => exact .nil s
  | cons packet packets ih =>
    exact .cons (fun h => nomatch h) (ih (exec s (.incomingPacket packet)))

/-- Eleven one-fragment PDUs from the controller before the upper queue calls back: the
congestion check, which drops a PDU only when the queue holds more than
`kMaxQueuedPacketsPerConnection`, lets the eleventh onto a queue of ten. -/
theorem assembler_queue_exceeds_limit :
    ∃ s, assemblerMachine.Reachable init s ∧
      s.assembler.incomingQueue.length = kMaxQueuedPacketsPerConnection + 1 := by
  let pdu : AclView := ⟨.firstAutomaticallyFlushable, .pointToPoint, [0, 0, 0, 0]⟩
  refine ⟨_, ⟨_, run_incomingPackets init (List.replicate 11 pdu)⟩, ?_⟩
  decide

end AclRx

/-! ## The fragments of one PDU -/

namespace Assembler

/-- The fragments of one PDU: every proper prefix of their concatenation still waits, and the
whole is complete. -/
structure Fragments (first : List UInt8) (conts : List (List UInt8)) : Prop where
  waiting : ∀ k < conts.length, Waiting (first ++ (conts.take k).flatten)
  complete : IsL2capPdu (first ++ conts.flatten)

theorem checkSizeAndEnqueue_of_waiting (a : Assembler) {stage : PacketViewForRecombination}
    (w : Waiting stage.bytes) :
    a.checkSizeAndEnqueue stage = { a with recombinationStage := stage } := by
  unfold Waiting at w
  unfold checkSizeAndEnqueue
  rw [if_neg (by omega), if_pos w]

theorem checkSizeAndEnqueue_of_complete (a : Assembler) {stage : PacketViewForRecombination}
    (complete : IsL2capPdu stage.bytes)
    (room : a.incomingQueue.length ≤ kMaxQueuedPacketsPerConnection) :
    a.checkSizeAndEnqueue stage = ⟨.empty, true, a.incomingQueue ++ [stage.bytes]⟩ := by
  unfold IsL2capPdu at complete
  unfold checkSizeAndEnqueue
  rw [if_neg (by omega), if_neg (by omega), if_neg (by omega)]

/-- The stage `acc` and the continuing fragments after it: the fold over the fragments waits
until the last one and then pushes the concatenation. Induction on the fragments, with the
stage growing by one fragment at each step. -/
theorem foldl_continuingFragments (a : Assembler) (acc : List UInt8) (conts : List (List UInt8))
    (fragments : Fragments acc conts)
    (room : a.incomingQueue.length ≤ kMaxQueuedPacketsPerConnection) :
    (conts.map fun c => (⟨.continuingFragment, .pointToPoint, c⟩ : AclView)).foldl
        onIncomingPacket (a.checkSizeAndEnqueue (.ofPacketView acc)) =
      ⟨.empty, true, a.incomingQueue ++ [acc ++ conts.flatten]⟩ := by
  induction conts generalizing a acc with
  | nil =>
    have complete : IsL2capPdu acc := by simpa using fragments.complete
    rw [List.map_nil, List.foldl_nil, List.flatten_nil, List.append_nil]
    exact checkSizeAndEnqueue_of_complete a complete room
  | cons c conts ih =>
    have w : Waiting acc := by simpa using fragments.waiting 0 (by simp)
    let a' : Assembler := { a with recombinationStage := .ofPacketView acc }
    have next : Fragments (acc ++ c) conts := by
      refine ⟨fun k lt => ?_, ?_⟩
      · simpa using fragments.waiting (k + 1) (by simp; omega)
      · simpa using fragments.complete
    have step : (a.checkSizeAndEnqueue (.ofPacketView acc)).onIncomingPacket
        ⟨.continuingFragment, .pointToPoint, c⟩ = a'.checkSizeAndEnqueue (.ofPacketView (acc ++ c)) := by
      rw [checkSizeAndEnqueue_of_waiting a w]
      rfl
    rw [List.map_cons, List.foldl_cons, step, ih a' (acc ++ c) next room]
    simp [a']

/-- **The fragments of one PDU are pushed as their concatenation**: a first packet followed by
continuing fragments, whose proper prefixes wait and whose whole is complete, pushes their
concatenation onto an uncongested queue, whatever stage was in progress before. -/
theorem onIncomingPackets_fragments (a : Assembler) (first : List UInt8)
    (conts : List (List UInt8)) (fragments : Fragments first conts)
    (room : a.incomingQueue.length ≤ kMaxQueuedPacketsPerConnection) :
    ((⟨.firstAutomaticallyFlushable, .pointToPoint, first⟩ : AclView) ::
        conts.map fun c => ⟨.continuingFragment, .pointToPoint, c⟩).foldl onIncomingPacket a =
      ⟨.empty, true, a.incomingQueue ++ [first ++ conts.flatten]⟩ := by
  rw [List.foldl_cons]
  exact foldl_continuingFragments a first conts fragments room

end Assembler

end Acl

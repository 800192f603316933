import Mathlib.Data.UInt
import Fluoride.Lib.TwoLevelQueue

/-!
# The ACL round-robin scheduler (`round_robin_scheduler.cc`)

The scheduler hands the HCI layer one ACL fragment at a time while the controller has a buffer
free for the fragment's transport. Its state is the map of registered connections, the queue of
fragments of the packet being sent (`MultiPriorityQueue<packet_fragment, 2>`), the credits of
each transport, and whether the enqueue and each connection's dequeue callbacks are
registered.

The system around it is the handler's task queue, which holds the `start_round_robin` calls
that `handle_enqueue_next_fragment` posts, and the controller, which holds per handle the
fragments it has received and not yet reported complete. An event is a call of the scheduler
on its handler; a callback event is only delivered while the callback is registered.
A `log::assert_that` that fails aborts, and a step returns `none` then.
-/

namespace Acl

inductive ConnectionType
  | classic | le
  deriving DecidableEq, Repr

/-- `PacketBoundaryFlag` of `hci_packets.pdl`. -/
inductive PacketBoundaryFlag
  | firstNonAutomaticallyFlushable | continuingFragment | firstAutomaticallyFlushable
  deriving DecidableEq, Repr

/-- The ACL packet an `AclBuilder::Create` makes; the broadcast flag is always
`POINT_TO_POINT`. -/
structure AclBuilder where
  handle : UInt16
  packetBoundaryFlag : PacketBoundaryFlag
  payload : List UInt8
  deriving DecidableEq, Repr

/-- A packet of a connection's queue: its bytes and `IsFlushable()`. -/
structure AclPacket where
  payload : List UInt8
  flushable : Bool
  deriving DecidableEq, Repr

/-! ## Fragmentation (`AclFragmenter`, `FragmentingInserter`) -/

/-- `FragmentingInserter::insert_bits` byte by byte, then `finalize`: a byte joins the current
fragment, which is emitted once it holds `mtu` bytes; a non-empty last fragment is emitted at
the end. -/
def fragmentLoop (mtu : Nat) : List UInt8 → List UInt8 → List (List UInt8)
  | cur, [] => if cur.length ≠ 0 then [cur] else []
  | cur, b :: bs =>
    if (cur ++ [b]).length ≥ mtu then (cur ++ [b]) :: fragmentLoop mtu [] bs
    else fragmentLoop mtu (cur ++ [b]) bs

/-- `AclFragmenter::GetFragments`. -/
def getFragments (mtu : Nat) (payload : List UInt8) : List (List UInt8) :=
  fragmentLoop mtu [] payload

/-- The `AclBuilder`s of the fragment loop in `buffer_packet`: the first keeps the packet's
boundary flag, the rest are `CONTINUING_FRAGMENT`. -/
def fragmentBuilders (handle : UInt16) (flag : PacketBoundaryFlag) :
    List (List UInt8) → List AclBuilder
  | [] => []
  | f :: fs => ⟨handle, flag, f⟩ :: fragmentBuilders handle .continuingFragment fs

/-! ## The scheduler -/

structure AclQueueHandler where
  connectionType : ConnectionType
  dequeueIsRegistered : Bool
  numberOfSentPackets : UInt16
  highPriority : Bool
  deriving DecidableEq, Repr

structure PacketFragment where
  connectionType : ConnectionType
  handle : UInt16
  priority : Fin 2
  packet : AclBuilder
  deriving DecidableEq, Repr

/-- `RoundRobinScheduler`; `acl_queue_handlers_` is read through its lookup. -/
structure RoundRobinScheduler where
  aclQueueHandlers : UInt16 → Option AclQueueHandler
  fragmentsToSend : TwoLevelQueue PacketFragment
  maxAclPacketCredits : UInt16
  aclPacketCredits : UInt16
  leMaxAclPacketCredits : UInt16
  leAclPacketCredits : UInt16
  hciMtu : Nat
  leHciMtu : Nat
  enqueueRegistered : Bool

namespace RoundRobinScheduler

variable (s : RoundRobinScheduler)

/-- `acl_packet_credits_` or `le_acl_packet_credits_`. -/
def credits : ConnectionType → UInt16
  | .classic => s.aclPacketCredits
  | .le => s.leAclPacketCredits

/-- `max_acl_packet_credits_` or `le_max_acl_packet_credits_`. -/
def maxCredits : ConnectionType → UInt16
  | .classic => s.maxAclPacketCredits
  | .le => s.leMaxAclPacketCredits

def setCredits (type : ConnectionType) (v : UInt16) : RoundRobinScheduler :=
  match type with
  | .classic => { s with aclPacketCredits := v }
  | .le => { s with leAclPacketCredits := v }

/-- `hci_mtu_` or `le_hci_mtu_`. -/
def mtu : ConnectionType → Nat
  | .classic => s.hciMtu
  | .le => s.leHciMtu

/-- One connection's entry replaced. -/
def setHandler (handle : UInt16) (entry : Option AclQueueHandler) : RoundRobinScheduler :=
  { s with aclQueueHandlers := Function.update s.aclQueueHandlers handle entry }

/-- A write through the iterator of a connection's entry. -/
def modifyHandler (handle : UInt16) (f : AclQueueHandler → AclQueueHandler) :
    RoundRobinScheduler :=
  s.setHandler handle ((s.aclQueueHandlers handle).map f)

/-- Constructor: every credit free. -/
def make (numAclPacketBuffers : UInt16) (aclPacketLength : Nat) (totalNumLePackets : UInt16)
    (leDataPacketLength : Nat) : RoundRobinScheduler where
  aclQueueHandlers := fun _ => none
  fragmentsToSend := TwoLevelQueue.empty
  maxAclPacketCredits := numAclPacketBuffers
  aclPacketCredits := numAclPacketBuffers
  leMaxAclPacketCredits := totalNumLePackets
  leAclPacketCredits := totalNumLePackets
  hciMtu := aclPacketLength
  leHciMtu := leDataPacketLength
  enqueueRegistered := false

/-- `send_next_fragment`: register the enqueue callback. -/
def sendNextFragment : RoundRobinScheduler := { s with enqueueRegistered := true }

def unregisterAllConnections : RoundRobinScheduler :=
  { s with aclQueueHandlers := fun h =>
      (s.aclQueueHandlers h).map fun entry => { entry with dequeueIsRegistered := false } }

/-- `start_round_robin`. The loop visits every connection once, from `starting_point_`; the
order only decides the order of the `RegisterDequeue` calls, which the events leave free, so
the starting point is not kept. -/
def startRoundRobin : RoundRobinScheduler :=
  if s.credits .classic = 0 ∧ s.credits .le = 0 then s
  else
    match s.fragmentsToSend.front? with
    | some fragment =>
      if s.credits fragment.connectionType = 0 then s else s.sendNextFragment
    | none =>
      { s with aclQueueHandlers := fun h => (s.aclQueueHandlers h).map fun entry =>
          if !entry.dequeueIsRegistered ∧ s.credits entry.connectionType ≠ 0 then
            { entry with dequeueIsRegistered := true }
          else entry }

/-- `Register`; the assertion that the handle is new aborts otherwise. -/
def register (connectionType : ConnectionType) (handle : UInt16) :
    Option RoundRobinScheduler :=
  if (s.aclQueueHandlers handle).isSome then none
  else
    let s := s.setHandler handle (some ⟨connectionType, false, 0, false⟩)
    if s.fragmentsToSend.size = 0 then some s.startRoundRobin else some s

/-- The loop of `drop_packet_fragments`: the fragments leave the queue in order; those of
`handle` are counted off `number_of_sent_packets_`, the others are pushed again. -/
def dropStep (handle : UInt16) (acc : TwoLevelQueue PacketFragment × UInt16)
    (fragment : PacketFragment) : TwoLevelQueue PacketFragment × UInt16 :=
  if fragment.handle = handle then (acc.1, acc.2 - 1)
  else (acc.1.push fragment fragment.priority, acc.2)

/-- `drop_packet_fragments` for a registered handle. -/
def dropPacketFragments (handle : UInt16) : RoundRobinScheduler :=
  if s.fragmentsToSend.size = 0 then s
  else
    match s.aclQueueHandlers handle with
    | none => s
    | some entry =>
      let dropped := s.fragmentsToSend.toList.foldl (dropStep handle)
        (TwoLevelQueue.empty, entry.numberOfSentPackets)
      let s := s.modifyHandler handle fun entry => { entry with numberOfSentPackets := dropped.2 }
      let s := if dropped.1.size = 0 then { s with enqueueRegistered := false } else s
      { s with fragmentsToSend := dropped.1 }

/-- `Unregister`, with the value of the `drop_acl_fragment_on_disconnect` flag; the assertion
that the handle is registered aborts otherwise. -/
def unregister (dropAclFragmentOnDisconnect : Bool) (handle : UInt16) :
    Option RoundRobinScheduler :=
  if (s.aclQueueHandlers handle).isNone then none
  else
    let s := if dropAclFragmentOnDisconnect then s.dropPacketFragments handle else s
    match s.aclQueueHandlers handle with
    | none => none
    | some entry =>
      let type := entry.connectionType
      let creditsReclaimedFromZero :=
        decide (entry.numberOfSentPackets > 0) && decide (s.credits type = 0)
      -- reclaim the outstanding packets, then erase the connection
      let s := s.setCredits type (s.credits type + entry.numberOfSentPackets)
      let s := s.setHandler handle none
      if dropAclFragmentOnDisconnect && creditsReclaimedFromZero then some s.startRoundRobin
      else some s

def setLinkPriority (handle : UInt16) (highPriority : Bool) : RoundRobinScheduler :=
  s.modifyHandler handle fun entry => { entry with highPriority := highPriority }

/-- The fragments `buffer_packet` pushes for a packet of a connection. -/
def packetFragments (handle : UInt16) (entry : AclQueueHandler) (packet : AclPacket) :
    List PacketFragment :=
  let mtu := s.mtu entry.connectionType
  let flag : PacketBoundaryFlag := if packet.flushable then .firstAutomaticallyFlushable
    else .firstNonAutomaticallyFlushable
  let priority : Fin 2 := if entry.highPriority then 1 else 0
  let builders := if packet.payload.length ≤ mtu then [⟨handle, flag, packet.payload⟩]
    else fragmentBuilders handle flag (getFragments mtu packet.payload)
  builders.map fun builder => ⟨entry.connectionType, handle, priority, builder⟩

/-- `buffer_packet`, with the packet `TryDequeue` returned. `number_of_sent_packets_` grows by
the size of the whole queue. -/
def bufferPacket (aclHandle : UInt16) (packet : AclPacket) : Option RoundRobinScheduler :=
  match s.aclQueueHandlers aclHandle with
  | none => some s
  | some entry =>
    let fragments := s.packetFragments aclHandle entry packet
    let queue := TwoLevelQueue.pushAll PacketFragment.priority s.fragmentsToSend fragments
    if queue.size = 0 then none
    else
      let s := { s with fragmentsToSend := queue }.unregisterAllConnections
      let s := s.modifyHandler aclHandle fun entry => { entry with
        numberOfSentPackets := entry.numberOfSentPackets + UInt16.ofNat queue.size }
      some s.sendNextFragment

/-- `handle_enqueue_next_fragment`: the state, the fragment handed to HCI, and whether
`start_round_robin` was posted. The front of an empty queue and a transport with no credit
abort. -/
def handleEnqueueNextFragment : Option (RoundRobinScheduler × AclBuilder × Bool) :=
  match s.fragmentsToSend.front? with
  | none => none
  | some fragment =>
    let type := fragment.connectionType
    if s.credits type = 0 then none
    else
      let s := s.setCredits type (s.credits type - 1)
      let s := { s with fragmentsToSend := s.fragmentsToSend.pop }
      match s.fragmentsToSend.front? with
      | none => some ({ s with enqueueRegistered := false }, fragment.packet, true)
      | some next =>
        if s.credits next.connectionType = 0 then
          some ({ s with enqueueRegistered := false }, fragment.packet, false)
        else some (s, fragment.packet, false)

/-- `incoming_acl_credits`: the credits come back, up to the maximum. -/
def incomingAclCredits (handle : UInt16) (credits : UInt16) : RoundRobinScheduler :=
  match s.aclQueueHandlers handle with
  | none => s
  | some entry =>
    let sent := if entry.numberOfSentPackets ≥ credits then entry.numberOfSentPackets - credits
      else 0
    let s := s.modifyHandler handle fun entry => { entry with numberOfSentPackets := sent }
    let type := entry.connectionType
    let creditWasZero := s.credits type = 0
    let c := s.credits type + credits
    let s := s.setCredits type (if c > s.maxCredits type then s.maxCredits type else c)
    if creditWasZero then s.startRoundRobin else s

end RoundRobinScheduler

/-! ## The system: handler tasks and the controller -/

structure AclSystem where
  scheduler : RoundRobinScheduler
  /-- `start_round_robin` calls posted to the handler and not yet run. -/
  posted : Nat
  /-- Per handle, the fragments the controller holds and has not reported complete. -/
  inFlight : UInt16 → Nat

inductive Event
  | register (connectionType : ConnectionType) (handle : UInt16)
  | unregister (handle : UInt16)
  | setLinkPriority (handle : UInt16) (highPriority : Bool)
  | bufferPacket (handle : UInt16) (packet : AclPacket)
  | handleEnqueueNextFragment
  | incomingAclCredits (handle : UInt16) (credits : UInt16)
  | runStartRoundRobin

namespace AclSystem

/-- When an event can be delivered: a callback only while it is registered, a posted task only
while one is pending, and a completion report for at most the fragments the controller holds. -/
def Enabled (sys : AclSystem) : Event → Prop
  | .bufferPacket handle _ =>
    ∃ entry, sys.scheduler.aclQueueHandlers handle = some entry ∧ entry.dequeueIsRegistered
  | .handleEnqueueNextFragment => sys.scheduler.enqueueRegistered
  | .incomingAclCredits handle credits => credits.toNat ≤ sys.inFlight handle
  | .runStartRoundRobin => 0 < sys.posted
  | _ => True

/-- One event. On `Unregister` (a disconnection) the controller drops what it holds for the
handle; a fragment handed to HCI reaches the controller. -/
def step (dropAclFragmentOnDisconnect : Bool) (sys : AclSystem) : Event → Option AclSystem
  | .register type handle =>
    (sys.scheduler.register type handle).map fun s => { sys with scheduler := s }
  | .unregister handle =>
    (sys.scheduler.unregister dropAclFragmentOnDisconnect handle).map fun s =>
      { sys with
        scheduler := s
        inFlight := Function.update sys.inFlight handle 0 }
  | .setLinkPriority handle high =>
    some { sys with scheduler := sys.scheduler.setLinkPriority handle high }
  | .bufferPacket handle packet =>
    (sys.scheduler.bufferPacket handle packet).map fun s => { sys with scheduler := s }
  | .handleEnqueueNextFragment =>
    sys.scheduler.handleEnqueueNextFragment.map fun (s, fragment, post) =>
      { scheduler := s
        posted := if post then sys.posted + 1 else sys.posted
        inFlight := Function.update sys.inFlight fragment.handle
          (sys.inFlight fragment.handle + 1) }
  | .incomingAclCredits handle credits =>
    some { sys with
      scheduler := sys.scheduler.incomingAclCredits handle credits
      inFlight := Function.update sys.inFlight handle (sys.inFlight handle - credits.toNat) }
  | .runStartRoundRobin =>
    some { sys with scheduler := sys.scheduler.startRoundRobin, posted := sys.posted - 1 }

/-- A freshly constructed scheduler, nothing posted, nothing at the controller. -/
def initial (numAclPacketBuffers : UInt16) (aclPacketLength : Nat)
    (totalNumLePackets : UInt16) (leDataPacketLength : Nat) : AclSystem where
  scheduler := RoundRobinScheduler.make numAclPacketBuffers aclPacketLength totalNumLePackets
    leDataPacketLength
  posted := 0
  inFlight := fun _ => 0

end AclSystem

end Acl

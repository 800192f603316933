import Mathlib.Data.UInt
import Fluoride.Lib.Replay

/-!
# Alarms (`osi/src/alarm.cc`)

The global list `alarms` holds the alarms that are set and not yet expired, earliest deadline
first. Each call below runs with `alarms_mutex` held, one after another, and reads the clock
(`now_ms()`) once, at the time the call carries:
* `alarm_set` and `alarm_set_on_mloop` give an alarm its callback and where its expiries are
  processed (`default_callback_queue`, or the message loop), then `schedule_next_instance`;
* `alarm_cancel` takes the alarm out of the list and out of where it was handed;
* one turn of `callback_dispatch`'s loop takes the front alarm out once its deadline has come,
  schedules a periodic alarm's next instance, and hands the alarm over;
* `alarm_queue_ready` (the default callback thread) and `alarm_ready_mloop` (the message loop)
  run `alarm_ready_generic` on an alarm handed to them.

`schedule_next_instance` takes the alarm out, computes its deadline in `uint64_t` arithmetic
(a periodic alarm's on the grid of its period from its creation time), and puts it back after
every alarm whose deadline is not later. `reschedule_root_alarm` arms the timers for the front
alarm: `timer` and a wakelock for an expiry within `TIMER_INTERVAL_FOR_WAKELOCK_IN_MS`,
`wakeup_timer` for a later one.

An alarm is a value of `α`, the `alarm_t*` the caller holds; `κ` is a callback with its `data`.
`alarm->queue` is `default_callback_queue` or `NULL`, the only queues this file passes, and the
model keeps `default_callback_queue`'s contents. `CancelableClosureInStruct` is whether a copy
posted to the message loop still runs. A failed assertion or `log::fatal` is the reply `fatal`.
-/

namespace Osi

/-- `alarm_t`, without its statistics and its callback mutex. -/
structure Alarm (κ : Type) where
  creationTimeMs : UInt64
  periodMs : UInt64
  deadlineMs : UInt64
  prevDeadlineMs : UInt64
  isPeriodic : Bool
  /-- `queue`: `default_callback_queue` (`true`) or `NULL`. -/
  queue : Bool
  /-- `callback` with its `data`; `none` for `NULL`. -/
  callback : Option κ
  forMsgLoop : Bool
  /-- `closure`: a copy was posted to the message loop and neither `Cancel` nor `Reset` cut it
  off. -/
  closurePosted : Bool
  deriving DecidableEq, Repr

/-- `alarm_new_internal`: zeroed by `osi_calloc`. -/
def Alarm.new {κ : Type} (isPeriodic : Bool) : Alarm κ :=
  ⟨0, 0, 0, 0, isPeriodic, false, none, false, false⟩

/-- The alarms' state: the globals of `alarm.cc` and every `alarm_t`. -/
structure AlarmState (α κ : Type) where
  alarms : List α
  alarm : α → Alarm κ
  /-- `default_callback_queue`: the alarms handed to the default callback thread. -/
  callbackQueue : List α
  timerSet : Bool
  /-- `timer`'s expiry, `0` when disarmed by a zeroed `itimerspec`. -/
  timerMs : UInt64
  /-- `wakeup_timer`'s expiry, `none` when it cannot fire: never armed, or armed at the end of
  time. -/
  wakeupTimerMs : Option UInt64
  wakelock : Bool
  /-- The clock, `now_ms()`, at the last call. -/
  nowMs : UInt64

/-- What a call returns or does. -/
inductive AlarmReply (α κ : Type)
  | none
  /-- `callback_dispatch` handed the alarm to its queue or to the message loop. -/
  | dispatched (a : α)
  /-- `alarm_ready_generic` called the alarm's callback. -/
  | invoked (a : α) (callback : κ)
  | fatal
  deriving DecidableEq, Repr

/-- `TIMER_INTERVAL_FOR_WAKELOCK_IN_MS`. -/
def TIMER_INTERVAL_FOR_WAKELOCK_IN_MS : Int64 := 3000

variable {α κ : Type} [DecidableEq α]

/-- The state with the record of `a` changed by `f`. -/
def AlarmState.modify (s : AlarmState α κ) (a : α) (f : Alarm κ → Alarm κ) : AlarmState α κ :=
  { s with alarm := Function.update s.alarm a (f (s.alarm a)) }

/-- `alarm_is_scheduled(alarm)`. -/
def alarmIsScheduled (s : AlarmState α κ) (a : α) : Bool := (s.alarm a).callback.isSome

/-- `alarm_get_remaining_ms(alarm)`. -/
def alarmGetRemainingMs (s : AlarmState α κ) (a : α) (nowMs : UInt64) : UInt64 :=
  if (s.alarm a).deadlineMs > nowMs then (s.alarm a).deadlineMs - nowMs else 0

/-- The branch of `reschedule_root_alarm` on the front alarm: `timer_time`, whether the
wakelock is held, and `wakeup_timer`. -/
def armTimers (s : AlarmState α κ) (nowMs : UInt64) : UInt64 × Bool × Option UInt64 :=
  match s.alarms with
  | [] => (0, s.wakelock, s.wakeupTimerMs)
  | next :: _ =>
    let nextExpiration := ((s.alarm next).deadlineMs - nowMs).toInt64
    if nextExpiration < TIMER_INTERVAL_FOR_WAKELOCK_IN_MS then
      -- `wakelock_acquire()` unless the timer was set; `wakeup_timer` to the end of time
      ((s.alarm next).deadlineMs, if !s.timerSet then true else s.wakelock, none)
    else (0, s.wakelock, some (s.alarm next).deadlineMs)

/-- `reschedule_root_alarm()`: the timers for the front alarm. -/
def rescheduleRootAlarm (s : AlarmState α κ) (nowMs : UInt64) : AlarmState α κ :=
  let armed := armTimers s nowMs
  let timerSet := armed.1 != 0
  let wakelock := if s.timerSet && !timerSet then false else armed.2.1
  { s with timerSet, timerMs := armed.1, wakeupTimerMs := armed.2.2, wakelock }

/-- The `while` loop of `remove_pending_alarm`: `fixed_queue_try_remove_from_queue` until it
finds the alarm no more. -/
def removeFromQueue (queue : List α) (a : α) : List α :=
  if _found : a ∈ queue then removeFromQueue (queue.erase a) a else queue
termination_by queue.length
decreasing_by
  rw [List.length_erase_of_mem _found]
  have := List.length_pos_of_mem _found
  omega

/-- `remove_pending_alarm(alarm)`: out of `alarms`, and out of where it was handed. -/
def removePendingAlarm (s : AlarmState α κ) (a : α) : AlarmState α κ :=
  let s := { s with alarms := s.alarms.erase a }
  if (s.alarm a).forMsgLoop then s.modify a fun x => { x with closurePosted := false }
  else if (s.alarm a).queue then { s with callbackQueue := removeFromQueue s.callbackQueue a }
  else s

/-- The deadline `schedule_next_instance` computes at `justNowMs`. -/
def nextDeadlineMs (x : Alarm κ) (justNowMs : UInt64) : UInt64 :=
  let msIntoPeriod : UInt64 :=
    if x.isPeriodic && x.periodMs != 0 then (justNowMs - x.creationTimeMs) % x.periodMs else 0
  justNowMs + (x.periodMs - msIntoPeriod)

/-- The `for` loop of `schedule_next_instance`, from a node whose deadline is not later than
`deadline`: insert after the first node whose successor is the end or has a later deadline. -/
def insertAfterLoop (deadlineOf : α → UInt64) (a : α) (deadline : UInt64) : List α → List α
  | [] => [a]
  | [node] => [node, a]
  | node :: next :: rest =>
    if deadlineOf next > deadline then node :: a :: next :: rest
    else node :: insertAfterLoop deadlineOf a deadline (next :: rest)

/-- `schedule_next_instance`'s insertion into the timer list, earliest deadline first. -/
def insertByDeadline (deadlineOf : α → UInt64) (a : α) (deadline : UInt64) (alarms : List α) :
    List α :=
  match alarms with
  | [] => [a]
  | front :: _ =>
    if deadlineOf front > deadline then a :: alarms
    else insertAfterLoop deadlineOf a deadline alarms

/-- `schedule_next_instance(alarm)`. -/
def scheduleNextInstance (s : AlarmState α κ) (a : α) (nowMs : UInt64) : AlarmState α κ :=
  -- the alarm at the front means the earliest deadline changes
  let needsReschedule := decide (s.alarms.head? = some a)
  let s := if (s.alarm a).callback.isSome then removePendingAlarm s a else s
  let deadline := nextDeadlineMs (s.alarm a) nowMs
  let s := s.modify a fun x => { x with deadlineMs := deadline }
  let s :=
    { s with alarms := insertByDeadline (fun b => (s.alarm b).deadlineMs) a deadline s.alarms }
  if needsReschedule || decide (s.alarms.head? = some a) then rescheduleRootAlarm s nowMs else s

/-- `alarm_set_internal(alarm, period_ms, cb, data, queue, for_msg_loop)`. -/
def alarmSetInternal (s : AlarmState α κ) (a : α) (periodMs : UInt64) (cb : κ)
    (queue forMsgLoop : Bool) (nowMs : UInt64) : AlarmState α κ :=
  let s := s.modify a fun x =>
    { x with creationTimeMs := nowMs, periodMs, queue, callback := some cb, forMsgLoop }
  scheduleNextInstance s a nowMs

/-- `alarm_cancel_internal(alarm)`. -/
def alarmCancelInternal (s : AlarmState α κ) (a : α) (nowMs : UInt64) : AlarmState α κ :=
  let needsReschedule := decide (s.alarms.head? = some a)
  let s := removePendingAlarm s a
  let s := s.modify a fun x =>
    { x with deadlineMs := 0, prevDeadlineMs := 0, callback := none, queue := false }
  if needsReschedule then rescheduleRootAlarm s nowMs else s

/-- What `callback_dispatch` does to an expired alarm before handing it over: `list_remove`, and
for a periodic alarm the next instance. -/
def takeExpired (s : AlarmState α κ) (a : α) (nowMs : UInt64) : AlarmState α κ :=
  let s := { s with alarms := s.alarms.erase a }
  if (s.alarm a).isPeriodic then
    scheduleNextInstance (s.modify a fun x => { x with prevDeadlineMs := x.deadlineMs }) a nowMs
  else s

/-- "Enqueue the alarm for processing": a closure posted to the message loop, or
`fixed_queue_enqueue`, which asserts its queue is not `NULL`. -/
def handOver (s : AlarmState α κ) (a : α) : AlarmReply α κ × AlarmState α κ :=
  if (s.alarm a).forMsgLoop then
    (.dispatched a, s.modify a fun x => { x with closurePosted := true })
  else if (s.alarm a).queue then (.dispatched a, { s with callbackQueue := s.callbackQueue ++ [a] })
  else (.fatal, s)

/-- One turn of `callback_dispatch`'s loop, after `alarm_expired` was posted. -/
def callbackDispatch (s : AlarmState α κ) (nowMs : UInt64) : AlarmReply α κ × AlarmState α κ :=
  match s.alarms with
  | [] => (.none, rescheduleRootAlarm s nowMs)
  | a :: _ =>
    -- the front alarm is in the future: nothing left to do
    if (s.alarm a).deadlineMs > nowMs then (.none, rescheduleRootAlarm s nowMs)
    else handOver (rescheduleRootAlarm (takeExpired s a nowMs) nowMs) a

/-- `alarm_ready_generic(alarm, lock)`, for the alarm its thread took (`none` for `NULL`). -/
def alarmReadyGeneric (s : AlarmState α κ) : Option α → AlarmReply α κ × AlarmState α κ
  | none => (.none, s)
  | some a =>
    match (s.alarm a).callback with
    | none => (.fatal, s)
    | some cb =>
      if (s.alarm a).isPeriodic then (.invoked a cb, s)
      else
        (.invoked a cb,
          s.modify a fun x => { x with deadlineMs := 0, callback := none, queue := false })

/-- `alarm_queue_ready(default_callback_queue)`: `fixed_queue_try_dequeue`, then
`alarm_ready_generic`. -/
def alarmQueueReady (s : AlarmState α κ) : AlarmReply α κ × AlarmState α κ :=
  match s.callbackQueue with
  | [] => alarmReadyGeneric s none
  | a :: rest => alarmReadyGeneric { s with callbackQueue := rest } (some a)

/-- The message loop runs the closure posted for `alarm`: `alarm_ready_mloop(alarm)`, unless it
was cut off. -/
def alarmReadyMloop (s : AlarmState α κ) (a : α) : AlarmReply α κ × AlarmState α κ :=
  if (s.alarm a).closurePosted then
    alarmReadyGeneric (s.modify a fun x => { x with closurePosted := false }) (some a)
  else (.none, s)

/-- The calls, each made at a reading of the clock. -/
inductive AlarmOp (α κ : Type)
  | set (a : α) (intervalMs : UInt64) (cb : κ)
  | setOnMloop (a : α) (intervalMs : UInt64) (cb : κ)
  | cancel (a : α)
  /-- A turn of `callback_dispatch`. -/
  | dispatch
  /-- The default callback thread takes an alarm: `alarm_queue_ready`. -/
  | queueReady
  /-- The message loop runs the closure posted for an alarm. -/
  | mloopReady (a : α)
  deriving DecidableEq, Repr

/-- A call at the clock reading `nowMs`. -/
def alarmStep (s : AlarmState α κ) : AlarmOp α κ × UInt64 → AlarmReply α κ × AlarmState α κ
  | (op, nowMs) =>
    let s := { s with nowMs }
    match op with
    | .set a intervalMs cb =>
      (.none, alarmSetInternal s a intervalMs cb true false nowMs)
    | .setOnMloop a intervalMs cb =>
      (.none, alarmSetInternal s a intervalMs cb false true nowMs)
    | .cancel a => (.none, alarmCancelInternal s a nowMs)
    | .dispatch => callbackDispatch s nowMs
    | .queueReady => alarmQueueReady s
    | .mloopReady a => alarmReadyMloop s a

/-- The state after `lazy_initialize` and an `alarm_new` or `alarm_new_periodic` of every
alarm. -/
def alarmInit (isPeriodic : α → Bool) : AlarmState α κ :=
  ⟨[], fun a => Alarm.new (isPeriodic a), [], false, 0, none, false, 0⟩

end Osi

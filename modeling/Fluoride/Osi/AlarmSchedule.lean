import Fluoride.Osi.Alarm
import Fluoride.Lib.TimerList

/-!
# The timer list of `alarm.cc` over a run of calls

Over every run of `alarm_set`, `alarm_set_on_mloop`, `alarm_cancel` and turns of
`callback_dispatch`, each made with `alarms_mutex` held and at a clock reading no earlier than
the last, the list `alarms`:
* holds each alarm at most once;
* is sorted by deadline, and alarms of equal deadline stand in the order they were scheduled;
* holds exactly the alarms that are scheduled (a callback set) and whose current deadline was
  not yet dispatched.

What the code does not keep is carried beside it (`Tracked`): the number of the call that last
scheduled each alarm, and whether a one-shot alarm was dispatched since it was set.

`schedule_next_instance`'s loop inserts as `List.orderedInsert` does with the strict order of
deadlines (`insertByDeadline_eq`), so the order of the list is `TimerList`'s.
-/

namespace Osi

open TimerList

variable {α κ : Type}

/-! ## What each piece of code writes -/

section Fields

variable (s : AlarmState α κ) (nowMs : UInt64)

@[simp] theorem rescheduleRootAlarm_alarms : (rescheduleRootAlarm s nowMs).alarms = s.alarms := rfl

@[simp] theorem rescheduleRootAlarm_alarm : (rescheduleRootAlarm s nowMs).alarm = s.alarm := rfl

@[simp] theorem rescheduleRootAlarm_nowMs : (rescheduleRootAlarm s nowMs).nowMs = s.nowMs := rfl

variable [DecidableEq α] (a : α) (f : Alarm κ → Alarm κ)

@[simp] theorem modify_alarms : (s.modify a f).alarms = s.alarms := rfl

@[simp] theorem modify_nowMs : (s.modify a f).nowMs = s.nowMs := rfl

@[simp] theorem modify_alarm_self : (s.modify a f).alarm a = f (s.alarm a) := by
  simp [AlarmState.modify]

@[simp] theorem modify_alarm_of_ne {b : α} (ne : b ≠ a) :
    (s.modify a f).alarm b = s.alarm b := by
  simp [AlarmState.modify, ne]

@[simp] theorem removePendingAlarm_alarms : (removePendingAlarm s a).alarms = s.alarms.erase a := by
  simp only [removePendingAlarm]
  split_ifs <;> rfl

@[simp] theorem removePendingAlarm_nowMs : (removePendingAlarm s a).nowMs = s.nowMs := by
  simp only [removePendingAlarm]
  split_ifs <;> rfl

/-- `remove_pending_alarm` writes at most whether the alarm's closure still runs. -/
theorem removePendingAlarm_alarm : ∃ posted, (removePendingAlarm s a).alarm =
    Function.update s.alarm a { s.alarm a with closurePosted := posted } := by
  simp only [removePendingAlarm]
  split_ifs
  · exact ⟨false, rfl⟩
  · exact ⟨(s.alarm a).closurePosted, by simp⟩
  · exact ⟨(s.alarm a).closurePosted, by simp⟩

/-- For an alarm whose expiries go to a callback queue, `remove_pending_alarm` writes nothing. -/
theorem removePendingAlarm_alarm_of_queued (queued : (s.alarm a).forMsgLoop = false) :
    (removePendingAlarm s a).alarm = s.alarm := by
  simp only [removePendingAlarm, queued, Bool.false_eq_true, if_false]
  split_ifs <;> rfl

end Fields

/-! ## The insertion -/

/-- The deadline of an alarm, as a number. -/
def deadlineKey (s : AlarmState α κ) (b : α) : ℕ := (s.alarm b).deadlineMs.toNat

theorem deadlineKey_congr {s s' : AlarmState α κ}
    (deadlines : ∀ x, (s'.alarm x).deadlineMs = (s.alarm x).deadlineMs) :
    deadlineKey s' = deadlineKey s :=
  funext fun x => by rw [deadlineKey, deadlineKey, deadlines x]

section Insert

variable (deadlineOf : α → UInt64) (a : α) (deadline : UInt64)

/-- The loop of `schedule_next_instance`, entered at a node no later than the new deadline,
inserts after every node no later than it. -/
theorem insertAfterLoop_eq (keyed : deadlineOf a = deadline) :
    ∀ {node : α} (rest : List α), ¬deadlineOf node > deadline →
      insertAfterLoop deadlineOf a deadline (node :: rest) =
        (node :: rest).orderedInsert (fun u v => (deadlineOf u).toNat < (deadlineOf v).toNat) a
  | node, rest, early => by
    have notBefore : ¬(deadlineOf a).toNat < (deadlineOf node).toNat := by
      rwa [keyed, ← UInt64.lt_iff_toNat_lt]
    rw [List.orderedInsert_cons, if_neg notBefore]
    match rest with
    | [] => rfl
    | next :: rest =>
      rw [insertAfterLoop]
      split
      case isTrue later =>
        have before : (deadlineOf a).toNat < (deadlineOf next).toNat := by
          rw [keyed, ← UInt64.lt_iff_toNat_lt]
          exact later
        rw [List.orderedInsert_cons, if_pos before]
      case isFalse notLater =>
        rw [insertAfterLoop_eq keyed rest notLater]

/-- `schedule_next_instance`'s insertion is `List.orderedInsert` by deadline. -/
theorem insertByDeadline_eq (keyed : deadlineOf a = deadline) (alarms : List α) :
    insertByDeadline deadlineOf a deadline alarms =
      alarms.orderedInsert (fun u v => (deadlineOf u).toNat < (deadlineOf v).toNat) a := by
  unfold insertByDeadline
  split
  case h_1 => rfl
  case h_2 front rest =>
    split
    case isTrue later =>
      have before : (deadlineOf a).toNat < (deadlineOf front).toNat := by
        rw [keyed, ← UInt64.lt_iff_toNat_lt]
        exact later
      rw [List.orderedInsert_cons, if_pos before]
    case isFalse notLater =>
      exact insertAfterLoop_eq deadlineOf a deadline keyed rest notLater

end Insert

/-! ## Deadlines as numbers -/

theorem toNat_pos_of_ne_zero {x : UInt64} (ne : x ≠ 0) : 0 < x.toNat := by
  rw [Nat.pos_iff_ne_zero, Ne, ← UInt64.toNat_zero, UInt64.toNat_inj]
  exact ne

/-- Without overflow, a periodic alarm's next deadline is now plus what is left of the period. -/
theorem nextDeadlineMs_toNat (x : Alarm κ) (nowMs : UInt64) (periodic : x.isPeriodic = true)
    (period : x.periodMs ≠ 0) (created : x.creationTimeMs ≤ nowMs)
    (fits : nowMs.toNat + x.periodMs.toNat < 2 ^ 64) :
    (nextDeadlineMs x nowMs).toNat = nowMs.toNat +
      (x.periodMs.toNat - (nowMs.toNat - x.creationTimeMs.toNat) % x.periodMs.toNat) := by
  have intoPeriod : ((nowMs - x.creationTimeMs) % x.periodMs).toNat =
      (nowMs.toNat - x.creationTimeMs.toNat) % x.periodMs.toNat := by
    rw [UInt64.toNat_mod, UInt64.toNat_sub_of_le _ _ created]
  have short := Nat.mod_lt (nowMs.toNat - x.creationTimeMs.toNat) (toNat_pos_of_ne_zero period)
  have within : (nowMs - x.creationTimeMs) % x.periodMs ≤ x.periodMs := by
    rw [UInt64.le_iff_toNat_le, intoPeriod]
    exact Nat.le_of_lt short
  have onGrid : (x.isPeriodic && x.periodMs != 0) = true := by simp [periodic, period]
  simp only [nextDeadlineMs]
  rw [if_pos onGrid, UInt64.toNat_add, UInt64.toNat_sub_of_le _ _ within, intoPeriod,
    Nat.mod_eq_of_lt (by omega)]

/-- `alarm_get_remaining_ms` is the deadline less now, or `0` once it has passed. -/
theorem alarmGetRemainingMs_toNat (s : AlarmState α κ) (a : α) (nowMs : UInt64) :
    (alarmGetRemainingMs s a nowMs).toNat = (s.alarm a).deadlineMs.toNat - nowMs.toNat := by
  unfold alarmGetRemainingMs
  split
  case isTrue later =>
    exact UInt64.toNat_sub_of_le _ _ (UInt64.le_of_lt later)
  case isFalse passed =>
    have early := UInt64.not_lt.1 passed
    rw [UInt64.le_iff_toNat_le] at early
    rw [UInt64.toNat_zero]
    omega

variable [DecidableEq α]

/-- A write to one alarm's record that keeps its kind keeps every alarm's kind. -/
theorem isPeriodic_update {f : α → Alarm κ} {a : α} {r : Alarm κ}
    (keeps : r.isPeriodic = (f a).isPeriodic) (b : α) :
    (Function.update f a r b).isPeriodic = (f b).isPeriodic := by
  by_cases same : b = a
  · subst same
    simpa using keeps
  · simp [same]

/-! ## `schedule_next_instance` -/

section Schedule

variable (s : AlarmState α κ) (a : α) (nowMs : UInt64)

/-- The deadline does not read whether the closure still runs. -/
@[simp] theorem nextDeadlineMs_closurePosted (x : Alarm κ) (posted : Bool) :
    nextDeadlineMs { x with closurePosted := posted } nowMs = nextDeadlineMs x nowMs := rfl

/-- `schedule_next_instance` writes the deadline, and `remove_pending_alarm` whether the closure
still runs. -/
theorem scheduleNextInstance_alarm :
    ∃ posted, (scheduleNextInstance s a nowMs).alarm = Function.update s.alarm a
      { s.alarm a with
        deadlineMs := nextDeadlineMs (s.alarm a) nowMs, closurePosted := posted } := by
  obtain ⟨posted, removed⟩ := removePendingAlarm_alarm s a
  by_cases scheduled : (s.alarm a).callback.isSome
  · refine ⟨posted, ?_⟩
    simp only [scheduleNextInstance, scheduled, if_true]
    split <;> simp [AlarmState.modify, removed]
  · refine ⟨(s.alarm a).closurePosted, ?_⟩
    simp only [scheduleNextInstance, scheduled, Bool.false_eq_true, if_false]
    split <;> simp [AlarmState.modify]

/-- The list `schedule_next_instance` leaves: the alarm put by its new deadline into the list,
which `remove_pending_alarm` took it out of if it was scheduled. -/
theorem scheduleNextInstance_alarms_eq :
    (scheduleNextInstance s a nowMs).alarms =
      (if (s.alarm a).callback.isSome then s.alarms.erase a else s.alarms).orderedInsert
        (fun u v => deadlineKey (scheduleNextInstance s a nowMs) u <
          deadlineKey (scheduleNextInstance s a nowMs) v) a := by
  obtain ⟨posted, alarmEq⟩ := scheduleNextInstance_alarm s a nowMs
  have inserted : (scheduleNextInstance s a nowMs).alarms =
      insertByDeadline (fun b => ((scheduleNextInstance s a nowMs).alarm b).deadlineMs) a
        (nextDeadlineMs (s.alarm a) nowMs)
        (if (s.alarm a).callback.isSome then s.alarms.erase a else s.alarms) := by
    obtain ⟨posted', removed⟩ := removePendingAlarm_alarm s a
    by_cases scheduled : (s.alarm a).callback.isSome
    · simp only [scheduleNextInstance, scheduled, if_true]
      split <;> simp [removed]
    · simp only [scheduleNextInstance, scheduled, Bool.false_eq_true, if_false]
      split <;> simp
  rw [inserted, insertByDeadline_eq _ a _ (by simp [alarmEq])]
  rfl

theorem scheduleNextInstance_alarms (scheduled : (s.alarm a).callback.isSome) :
    (scheduleNextInstance s a nowMs).alarms = (s.alarms.erase a).orderedInsert
      (fun u v => deadlineKey (scheduleNextInstance s a nowMs) u <
        deadlineKey (scheduleNextInstance s a nowMs) v) a := by
  rw [scheduleNextInstance_alarms_eq, if_pos scheduled]

theorem scheduleNextInstance_alarms_of_not_mem (absent : a ∉ s.alarms) :
    (scheduleNextInstance s a nowMs).alarms = s.alarms.orderedInsert
      (fun u v => deadlineKey (scheduleNextInstance s a nowMs) u <
        deadlineKey (scheduleNextInstance s a nowMs) v) a := by
  rw [scheduleNextInstance_alarms_eq, List.erase_of_not_mem absent, ite_self]

/-- An alarm whose expiries go to a callback queue keeps a closure posted for it earlier. -/
theorem scheduleNextInstance_closurePosted (queued : (s.alarm a).forMsgLoop = false) :
    ((scheduleNextInstance s a nowMs).alarm a).closurePosted = (s.alarm a).closurePosted := by
  have removed := removePendingAlarm_alarm_of_queued s a queued
  by_cases scheduled : (s.alarm a).callback.isSome
  · simp only [scheduleNextInstance, scheduled, if_true]
    split <;> simp [AlarmState.modify, removed]
  · simp only [scheduleNextInstance, scheduled, Bool.false_eq_true, if_false]
    split <;> simp [AlarmState.modify]

theorem scheduleNextInstance_nowMs : (scheduleNextInstance s a nowMs).nowMs = s.nowMs := by
  simp only [scheduleNextInstance]
  split <;> split <;> simp

end Schedule

/-! ## The calls -/

section Calls

variable (s : AlarmState α κ) (a : α) (nowMs : UInt64)

section Set

variable (periodMs : UInt64) (cb : κ) (queue forMsgLoop : Bool)

/-- `alarm_set_internal` writes the call's arguments, and the deadline one period after now. -/
theorem alarmSetInternal_alarm : ∃ posted,
    (alarmSetInternal s a periodMs cb queue forMsgLoop nowMs).alarm = Function.update s.alarm a
      { s.alarm a with
        creationTimeMs := nowMs, periodMs, queue, callback := some cb, forMsgLoop,
        deadlineMs := nowMs + periodMs, closurePosted := posted } := by
  obtain ⟨posted, scheduled⟩ := scheduleNextInstance_alarm (s.modify a fun x =>
    { x with creationTimeMs := nowMs, periodMs, queue, callback := some cb, forMsgLoop }) a nowMs
  refine ⟨posted, ?_⟩
  rw [alarmSetInternal, scheduled]
  simp [AlarmState.modify, nextDeadlineMs]

theorem alarmSetInternal_alarms :
    (alarmSetInternal s a periodMs cb queue forMsgLoop nowMs).alarms =
      (s.alarms.erase a).orderedInsert
        (fun u v => deadlineKey (alarmSetInternal s a periodMs cb queue forMsgLoop nowMs) u <
          deadlineKey (alarmSetInternal s a periodMs cb queue forMsgLoop nowMs) v) a :=
  scheduleNextInstance_alarms _ a nowMs (by simp)

@[simp] theorem alarmSetInternal_nowMs :
    (alarmSetInternal s a periodMs cb queue forMsgLoop nowMs).nowMs = s.nowMs :=
  scheduleNextInstance_nowMs _ a nowMs

theorem alarmSetInternal_isPeriodic (b : α) :
    ((alarmSetInternal s a periodMs cb queue forMsgLoop nowMs).alarm b).isPeriodic =
      (s.alarm b).isPeriodic := by
  obtain ⟨posted, alarm⟩ := alarmSetInternal_alarm s a nowMs periodMs cb queue forMsgLoop
  rw [alarm]
  exact isPeriodic_update (by rfl) b

/-- `alarm_set_internal` writes `for_msg_loop` before `remove_pending_alarm` reads it: setting an
alarm for a callback queue does not cancel a closure posted for it to the message loop. -/
theorem alarmSetInternal_closurePosted :
    ((alarmSetInternal s a periodMs cb queue false nowMs).alarm a).closurePosted =
      (s.alarm a).closurePosted := by
  rw [alarmSetInternal, scheduleNextInstance_closurePosted _ a nowMs (by simp)]
  simp

end Set

@[simp] theorem alarmCancelInternal_alarms :
    (alarmCancelInternal s a nowMs).alarms = s.alarms.erase a := by
  simp only [alarmCancelInternal]
  split <;> simp

@[simp] theorem alarmCancelInternal_nowMs : (alarmCancelInternal s a nowMs).nowMs = s.nowMs := by
  simp only [alarmCancelInternal]
  split <;> simp

/-- `alarm_cancel_internal` clears the callback. -/
theorem alarmCancelInternal_alarm : ∃ posted, (alarmCancelInternal s a nowMs).alarm =
    Function.update s.alarm a
      { s.alarm a with
        deadlineMs := 0, prevDeadlineMs := 0, callback := none, queue := false,
        closurePosted := posted } := by
  obtain ⟨posted, removed⟩ := removePendingAlarm_alarm s a
  refine ⟨posted, ?_⟩
  simp only [alarmCancelInternal]
  split <;> simp [AlarmState.modify, removed]

theorem takeExpired_of_oneShot (oneShot : (s.alarm a).isPeriodic = false) :
    takeExpired s a nowMs = { s with alarms := s.alarms.erase a } := by
  simp [takeExpired, oneShot]

section Periodic

variable (periodic : (s.alarm a).isPeriodic = true)
include periodic

/-- A periodic alarm's next instance. -/
theorem takeExpired_alarm : ∃ posted, (takeExpired s a nowMs).alarm = Function.update s.alarm a
    { s.alarm a with
      prevDeadlineMs := (s.alarm a).deadlineMs, deadlineMs := nextDeadlineMs (s.alarm a) nowMs,
      closurePosted := posted } := by
  obtain ⟨posted, next⟩ := scheduleNextInstance_alarm
    ({ s with alarms := s.alarms.erase a }.modify a fun x =>
      { x with prevDeadlineMs := x.deadlineMs })
    a nowMs
  refine ⟨posted, ?_⟩
  simp only [takeExpired, periodic, if_true]
  rw [next]
  -- the deadline does not read `prevDeadlineMs`
  simp [AlarmState.modify, periodic, nextDeadlineMs]

/-- A periodic alarm listed once goes back in by its next deadline. -/
theorem takeExpired_alarms (absent : a ∉ s.alarms.erase a) :
    (takeExpired s a nowMs).alarms = (s.alarms.erase a).orderedInsert
      (fun u v => deadlineKey (takeExpired s a nowMs) u <
        deadlineKey (takeExpired s a nowMs) v) a := by
  simp only [takeExpired, periodic, if_true]
  exact scheduleNextInstance_alarms_of_not_mem _ a nowMs absent

end Periodic

theorem takeExpired_nowMs : (takeExpired s a nowMs).nowMs = s.nowMs := by
  simp only [takeExpired]
  split
  · exact (scheduleNextInstance_nowMs _ a nowMs).trans rfl
  · rfl

/-- Taking an alarm out keeps where its expiries go. -/
theorem takeExpired_handling :
    ((takeExpired s a nowMs).alarm a).forMsgLoop = (s.alarm a).forMsgLoop ∧
      ((takeExpired s a nowMs).alarm a).queue = (s.alarm a).queue := by
  cases periodic : (s.alarm a).isPeriodic
  case false =>
    rw [takeExpired_of_oneShot s a nowMs periodic]
    exact ⟨rfl, rfl⟩
  case true =>
    obtain ⟨posted, next⟩ := takeExpired_alarm s a nowMs periodic
    rw [next]
    simp

/-- `callback_dispatch` hands the alarm over, or asserts that it has nowhere to go. -/
theorem handOver_cases :
    ((handOver s a).1 = .dispatched a ∧ (handOver s a).2.alarms = s.alarms ∧
      (handOver s a).2.nowMs = s.nowMs ∧
      ∃ posted, (handOver s a).2.alarm =
        Function.update s.alarm a { s.alarm a with closurePosted := posted }) ∨
    (handOver s a = (.fatal, s) ∧ (s.alarm a).forMsgLoop = false ∧
      (s.alarm a).queue = false) := by
  unfold handOver
  split
  case isTrue mloop => exact .inl ⟨rfl, rfl, rfl, true, rfl⟩
  case isFalse notMloop =>
    split
    case isTrue queued => exact .inl ⟨rfl, rfl, rfl, (s.alarm a).closurePosted, by simp⟩
    case isFalse notQueued =>
      exact .inr ⟨rfl, by simpa using notMloop, by simpa using notQueued⟩

/-- A turn of `callback_dispatch` does nothing to the list, or takes out its front alarm, due by
now. -/
theorem callbackDispatch_cases :
    ((callbackDispatch s nowMs).1 = .none ∧
        (callbackDispatch s nowMs).2 = rescheduleRootAlarm s nowMs) ∨
    ∃ a rest, s.alarms = a :: rest ∧ (s.alarm a).deadlineMs ≤ nowMs ∧
      callbackDispatch s nowMs =
        handOver (rescheduleRootAlarm (takeExpired s a nowMs) nowMs) a := by
  unfold callbackDispatch
  split
  case h_1 => exact .inl ⟨rfl, rfl⟩
  case h_2 front rest listed =>
    split
    case isTrue future => exact .inl ⟨rfl, rfl⟩
    case isFalse due => exact .inr ⟨front, rest, listed, UInt64.not_lt.1 due, rfl⟩

/-- The front alarm, once due, is taken out and handed over. -/
theorem callbackDispatch_of_due {a : α} {rest : List α} (front : s.alarms = a :: rest)
    (due : ¬(s.alarm a).deadlineMs > nowMs) :
    callbackDispatch s nowMs = handOver (rescheduleRootAlarm (takeExpired s a nowMs) nowMs) a := by
  unfold callbackDispatch
  split
  case h_1 empty => rw [front] at empty; cases empty
  case h_2 a' rest' listed =>
    rw [front] at listed
    injection listed with same
    subst same
    rw [if_neg due]

/-- What a turn of `callback_dispatch` does: nothing to the list or the alarms, or it takes out
the front alarm, due by now, and hands it over or asserts that it has nowhere to go. -/
theorem callbackDispatch_turn :
    ((callbackDispatch s nowMs).1 = .none ∧ (callbackDispatch s nowMs).2.alarms = s.alarms ∧
        (callbackDispatch s nowMs).2.alarm = s.alarm) ∨
    ∃ a rest, s.alarms = a :: rest ∧ (s.alarm a).deadlineMs ≤ nowMs ∧
      (callbackDispatch s nowMs).2.alarms = (takeExpired s a nowMs).alarms ∧
      (((callbackDispatch s nowMs).1 = .dispatched a ∧
          ∃ posted, (callbackDispatch s nowMs).2.alarm =
            Function.update (takeExpired s a nowMs).alarm a
              { (takeExpired s a nowMs).alarm a with closurePosted := posted }) ∨
        ((callbackDispatch s nowMs).1 = .fatal ∧
          (callbackDispatch s nowMs).2.alarm = (takeExpired s a nowMs).alarm ∧
          ((takeExpired s a nowMs).alarm a).forMsgLoop = false ∧
          ((takeExpired s a nowMs).alarm a).queue = false)) := by
  rcases callbackDispatch_cases s nowMs with
    ⟨reply, unchanged⟩ | ⟨a, rest, front, due, turn⟩
  · exact .inl ⟨reply, by rw [unchanged]; rfl, by rw [unchanged]; rfl⟩
  · refine .inr ⟨a, rest, front, due, ?_⟩
    rw [turn]
    rcases handOver_cases (rescheduleRootAlarm (takeExpired s a nowMs) nowMs) a with
      ⟨reply, alarms, -, posted, alarm⟩ | ⟨fatal, notMloop, notQueued⟩
    · exact ⟨alarms, .inl ⟨reply, posted, alarm⟩⟩
    · rw [fatal]
      exact ⟨rfl, .inr ⟨rfl, rfl, notMloop, notQueued⟩⟩

@[simp] theorem callbackDispatch_nowMs : (callbackDispatch s nowMs).2.nowMs = s.nowMs := by
  rcases callbackDispatch_cases s nowMs with ⟨-, unchanged⟩ | ⟨a, rest, -, -, turn⟩
  · rw [unchanged]
    rfl
  · rw [turn]
    rcases handOver_cases (rescheduleRootAlarm (takeExpired s a nowMs) nowMs) a with
      ⟨-, -, now, -⟩ | ⟨fatal, -⟩
    · rw [now]
      exact takeExpired_nowMs s a nowMs
    · rw [fatal]
      exact takeExpired_nowMs s a nowMs

end Calls

/-! ## Processing an expiry -/

/-- A call that hands nothing over and leaves the list: `alarm_ready_generic` and its two
callers. -/
structure Quiet (s : AlarmState α κ) (r : AlarmReply α κ × AlarmState α κ) : Prop where
  alarms : r.2.alarms = s.alarms
  nowMs : r.2.nowMs = s.nowMs
  not_dispatched : ∀ b, r.1 ≠ .dispatched b
  isPeriodic : ∀ b, (r.2.alarm b).isPeriodic = (s.alarm b).isPeriodic

section Ready

variable (s : AlarmState α κ)

theorem alarmReadyGeneric_quiet (taken : Option α) : Quiet s (alarmReadyGeneric s taken) := by
  unfold alarmReadyGeneric
  split
  case h_1 => exact ⟨rfl, rfl, fun _ => nofun, fun _ => rfl⟩
  case h_2 a =>
    split
    case h_1 => exact ⟨rfl, rfl, fun _ => nofun, fun _ => rfl⟩
    case h_2 cb =>
      split
      case isTrue => exact ⟨rfl, rfl, fun _ => nofun, fun _ => rfl⟩
      case isFalse => exact ⟨rfl, rfl, fun _ => nofun, isPeriodic_update (by rfl)⟩

theorem alarmQueueReady_quiet : Quiet s (alarmQueueReady s) := by
  unfold alarmQueueReady
  split
  case h_1 => exact alarmReadyGeneric_quiet s none
  case h_2 a rest _ =>
    -- the alarm taken off the queue is the only change before `alarm_ready_generic`
    have quiet := alarmReadyGeneric_quiet { s with callbackQueue := rest } (some a)
    exact ⟨quiet.alarms, quiet.nowMs, quiet.not_dispatched, quiet.isPeriodic⟩

theorem alarmReadyMloop_quiet (a : α) : Quiet s (alarmReadyMloop s a) := by
  unfold alarmReadyMloop
  split
  case isTrue =>
    have quiet :=
      alarmReadyGeneric_quiet (s.modify a fun x => { x with closurePosted := false }) (some a)
    refine ⟨quiet.alarms, quiet.nowMs, quiet.not_dispatched, fun b => ?_⟩
    rw [quiet.isPeriodic]
    exact isPeriodic_update (by rfl) b
  case isFalse => exact ⟨rfl, rfl, fun _ => nofun, fun _ => rfl⟩

/-- The posted closure runs a one-shot alarm's callback and clears it, whatever its deadline. -/
theorem alarmReadyMloop_of_posted {a : α} {cb : κ} (posted : (s.alarm a).closurePosted = true)
    (scheduled : (s.alarm a).callback = some cb) (oneShot : (s.alarm a).isPeriodic = false) :
    alarmReadyMloop s a = (.invoked a cb, s.modify a fun x =>
      { x with closurePosted := false, deadlineMs := 0, callback := none, queue := false }) := by
  simp [alarmReadyMloop, alarmReadyGeneric, posted, scheduled, oneShot, AlarmState.modify]

end Ready

/-! ## One call -/

/-- The alarm a call sets, if it is `alarm_set` or `alarm_set_on_mloop`. -/
def AlarmOp.setAlarm? : AlarmOp α κ → Option α
  | .set a _ _ | .setOnMloop a _ _ => some a
  | _ => none

section Step

variable (s : AlarmState α κ) (nowMs : UInt64)

@[simp] theorem alarmStep_set (a : α) (intervalMs : UInt64) (cb : κ) :
    alarmStep s (.set a intervalMs cb, nowMs) =
      (.none, alarmSetInternal { s with nowMs } a intervalMs cb true false nowMs) := rfl

@[simp] theorem alarmStep_setOnMloop (a : α) (intervalMs : UInt64) (cb : κ) :
    alarmStep s (.setOnMloop a intervalMs cb, nowMs) =
      (.none, alarmSetInternal { s with nowMs } a intervalMs cb false true nowMs) := rfl

@[simp] theorem alarmStep_cancel (a : α) :
    alarmStep s (.cancel a, nowMs) = (.none, alarmCancelInternal { s with nowMs } a nowMs) := rfl

@[simp] theorem alarmStep_dispatch :
    alarmStep s (.dispatch, nowMs) = callbackDispatch { s with nowMs } nowMs := rfl

@[simp] theorem alarmStep_queueReady :
    alarmStep s (.queueReady, nowMs) = alarmQueueReady { s with nowMs } := rfl

@[simp] theorem alarmStep_mloopReady (a : α) :
    alarmStep s (.mloopReady a, nowMs) = alarmReadyMloop { s with nowMs } a := rfl

theorem takeExpired_isPeriodic (a b : α) :
    ((takeExpired s a nowMs).alarm b).isPeriodic = (s.alarm b).isPeriodic := by
  cases periodic : (s.alarm a).isPeriodic
  case false => rw [takeExpired_of_oneShot s a nowMs periodic]
  case true =>
    obtain ⟨posted, next⟩ := takeExpired_alarm s a nowMs periodic
    rw [next]
    exact isPeriodic_update (by rfl) b

/-- A periodic alarm listed once, or a one-shot alarm, is not listed twice after it expires. -/
theorem takeExpired_nodup (a : α) (nodup : s.alarms.Nodup) :
    (takeExpired s a nowMs).alarms.Nodup := by
  cases periodic : (s.alarm a).isPeriodic
  case false =>
    rw [takeExpired_of_oneShot s a nowMs periodic]
    exact nodup.erase a
  case true =>
    rw [takeExpired_alarms s a nowMs periodic nodup.not_mem_erase]
    exact nodup_reinsert a _ nodup

theorem mem_of_mem_takeExpired {a b : α} (mem : b ∈ (takeExpired s a nowMs).alarms) :
    b = a ∨ b ∈ s.alarms := by
  cases periodic : (s.alarm a).isPeriodic
  case false =>
    rw [takeExpired_of_oneShot s a nowMs periodic] at mem
    exact .inr (List.mem_of_mem_erase mem)
  case true =>
    simp only [takeExpired, periodic, if_true] at mem
    rw [scheduleNextInstance_alarms_eq, List.mem_orderedInsert] at mem
    rcases mem with same | listed
    · exact .inl same
    · split at listed
      · exact .inr (List.mem_of_mem_erase (List.mem_of_mem_erase listed))
      · exact .inr (List.mem_of_mem_erase listed)

/-- No call changes whether an alarm is periodic. -/
theorem alarmStep_isPeriodic (call : AlarmOp α κ × UInt64) (b : α) :
    ((alarmStep s call).2.alarm b).isPeriodic = (s.alarm b).isPeriodic := by
  obtain ⟨op, nowMs⟩ := call
  cases op with
  | set a intervalMs cb | setOnMloop a intervalMs cb =>
    exact alarmSetInternal_isPeriodic _ a nowMs intervalMs cb _ _ b
  | cancel a =>
    obtain ⟨posted, alarm⟩ := alarmCancelInternal_alarm { s with nowMs } a nowMs
    rw [alarmStep_cancel, alarm]
    exact isPeriodic_update (by rfl) b
  | dispatch =>
    rw [alarmStep_dispatch]
    rcases callbackDispatch_turn { s with nowMs } nowMs with
      ⟨-, -, alarm⟩ | ⟨a, -, -, -, -, ⟨-, posted, alarm⟩ | ⟨-, alarm, -⟩⟩
    · rw [alarm]
    · rw [alarm, isPeriodic_update (by rfl) b]
      exact takeExpired_isPeriodic _ nowMs a b
    · rw [alarm]
      exact takeExpired_isPeriodic _ nowMs a b
  | queueReady => exact (alarmQueueReady_quiet _).isPeriodic b
  | mloopReady a => exact (alarmReadyMloop_quiet _ a).isPeriodic b

/-- No call lists an alarm twice. -/
theorem alarmStep_nodup (call : AlarmOp α κ × UInt64) (nodup : s.alarms.Nodup) :
    (alarmStep s call).2.alarms.Nodup := by
  obtain ⟨op, nowMs⟩ := call
  cases op with
  | set a intervalMs cb | setOnMloop a intervalMs cb =>
    simp only [alarmStep_set, alarmStep_setOnMloop]
    rw [alarmSetInternal_alarms]
    exact nodup_reinsert a _ nodup
  | cancel a =>
    rw [alarmStep_cancel, alarmCancelInternal_alarms]
    exact nodup.erase a
  | dispatch =>
    rw [alarmStep_dispatch]
    rcases callbackDispatch_turn { s with nowMs } nowMs with
      ⟨-, alarms, -⟩ | ⟨a, -, -, -, alarms, -⟩
    · rwa [alarms]
    · rw [alarms]
      exact takeExpired_nodup _ nowMs a nodup
  | queueReady => rwa [alarmStep_queueReady, (alarmQueueReady_quiet _).alarms]
  | mloopReady a => rwa [alarmStep_mloopReady, (alarmReadyMloop_quiet _ a).alarms]

/-- Only setting an alarm puts it into the list. -/
theorem alarmStep_not_mem (call : AlarmOp α κ × UInt64) {b : α} (absent : b ∉ s.alarms)
    (notSet : call.1.setAlarm? ≠ some b) : b ∉ (alarmStep s call).2.alarms := by
  obtain ⟨op, nowMs⟩ := call
  cases op with
  | set a intervalMs cb | setOnMloop a intervalMs cb =>
    have ne : b ≠ a := fun same => notSet (by rw [same]; rfl)
    simp only [alarmStep_set, alarmStep_setOnMloop]
    rw [alarmSetInternal_alarms, mem_reinsert_of_ne a _ ne]
    exact absent
  | cancel a =>
    rw [alarmStep_cancel, alarmCancelInternal_alarms]
    exact fun mem => absent (List.mem_of_mem_erase mem)
  | dispatch =>
    rw [alarmStep_dispatch]
    rcases callbackDispatch_turn { s with nowMs } nowMs with
      ⟨-, alarms, -⟩ | ⟨a, rest, front, -, alarms, -⟩
    · rwa [alarms]
    · -- only the front alarm can come back, and it was listed
      rw [alarms]
      intro mem
      rcases mem_of_mem_takeExpired _ nowMs mem with rfl | listed
      · exact absent (by rw [show s.alarms = b :: rest from front]; exact List.mem_cons_self)
      · exact absent listed
  | queueReady => rwa [alarmStep_queueReady, (alarmQueueReady_quiet _).alarms]
  | mloopReady a => rwa [alarmStep_mloopReady, (alarmReadyMloop_quiet _ a).alarms]

/-- An alarm handed over was at the front of the list; a one-shot alarm is then out of it. -/
theorem alarmStep_dispatched (call : AlarmOp α κ × UInt64) {b : α}
    (reply : (alarmStep s call).1 = .dispatched b) :
    b ∈ s.alarms ∧ ((s.alarm b).isPeriodic = false → s.alarms.Nodup →
      b ∉ (alarmStep s call).2.alarms) := by
  obtain ⟨op, nowMs⟩ := call
  cases op with
  | set a intervalMs cb | setOnMloop a intervalMs cb | cancel a => cases reply
  | dispatch =>
    rw [alarmStep_dispatch] at reply ⊢
    rcases callbackDispatch_turn { s with nowMs } nowMs with
      ⟨none, -⟩ | ⟨a, rest, front, -, alarms, ⟨dispatched, -⟩ | ⟨fatal, -⟩⟩
    · rw [none] at reply
      cases reply
    · rw [dispatched] at reply
      injection reply with same
      subst same
      have listed : a ∈ s.alarms := by
        rw [show s.alarms = a :: rest from front]
        exact List.mem_cons_self
      refine ⟨listed, fun oneShot nodup => ?_⟩
      rw [alarms, takeExpired_of_oneShot { s with nowMs } a nowMs oneShot]
      exact nodup.not_mem_erase
    · rw [fatal] at reply
      cases reply
  | queueReady => exact absurd reply ((alarmQueueReady_quiet _).not_dispatched b)
  | mloopReady a => exact absurd reply ((alarmReadyMloop_quiet _ a).not_dispatched b)

/-- Every call reads the clock. -/
@[simp] theorem alarmStep_nowMs (op : AlarmOp α κ) :
    (alarmStep s (op, nowMs)).2.nowMs = nowMs := by
  cases op with
  | set a intervalMs cb | setOnMloop a intervalMs cb =>
    exact alarmSetInternal_nowMs _ a nowMs intervalMs cb _ _
  | cancel a => exact alarmCancelInternal_nowMs _ a nowMs
  | dispatch => exact callbackDispatch_nowMs _ nowMs
  | queueReady => exact (alarmQueueReady_quiet _).nowMs
  | mloopReady a => exact (alarmReadyMloop_quiet _ a).nowMs

/-- A periodic alarm handed over keeps its creation time and period, and has its next
deadline. -/
theorem callbackDispatch_periodic {a : α} (reply : (callbackDispatch s nowMs).1 = .dispatched a)
    (periodic : (s.alarm a).isPeriodic = true) :
    ((callbackDispatch s nowMs).2.alarm a).deadlineMs = nextDeadlineMs (s.alarm a) nowMs ∧
      ((callbackDispatch s nowMs).2.alarm a).creationTimeMs = (s.alarm a).creationTimeMs ∧
      ((callbackDispatch s nowMs).2.alarm a).periodMs = (s.alarm a).periodMs := by
  rcases callbackDispatch_turn s nowMs with
    ⟨none, -⟩ | ⟨b, rest, -, -, -, ⟨dispatched, posted, alarm⟩ | ⟨fatal, -⟩⟩
  · rw [none] at reply
    cases reply
  · rw [dispatched] at reply
    injection reply with same
    subst same
    obtain ⟨posted', next⟩ := takeExpired_alarm s b nowMs periodic
    simp [alarm, next]
  · rw [fatal] at reply
    cases reply

end Step

end Osi

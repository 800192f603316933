import Fluoride.Osi.AlarmSchedule

/-!
# Runs of alarm calls

Two facts hold whatever the calls are: no run changes an alarm's kind (`replay_isPeriodic`),
and no call puts an alarm into the list twice (`alarmStep_nodup`). From them, a one-shot alarm
that is not set again is handed over at most once, and not at all once it is out of the list
(`count_handedOver_le`).

The order of the list, and which alarms it holds, need what the code does not keep. `Tracked`
carries it beside the state: the number of calls made, the call that last put each alarm into
the list, and whether a one-shot alarm was handed over since it was last set. Over runs of
`alarm_set`, `alarm_set_on_mloop`, `alarm_cancel` and turns of `callback_dispatch`, at a clock
that does not go back (`Serial`), `ScheduleInv` holds after every call: the list is sorted by
deadline and then by the call that scheduled each alarm, and it holds exactly the alarms
scheduled and not yet handed over for their deadline. Each call changes one alarm, and
`ScheduleInv.of_change` says what it has to show of that one; a turn of `callback_dispatch` is
`takeExpired`, which changes the front alarm, and then the hand-over, which changes nothing the
invariant reads (`ScheduleInv.keep`).

Outside such runs the list can hold an alarm with no callback: `alarm_set` does not cancel a
closure posted for the alarm to the message loop, and the closure clears the alarm it set
(`set_runs_posted_closure`).
-/

namespace Osi

open TimerList

variable {α κ : Type} [DecidableEq α]

/-! ## What every run keeps -/

section Replay

variable (s : AlarmState α κ) (calls : List (AlarmOp α κ × UInt64))

theorem replay_isPeriodic (b : α) :
    ((Lts.replay alarmStep s calls).2.alarm b).isPeriodic = (s.alarm b).isPeriodic :=
  Lts.replay_invariant (fun _ _ => True)
    (fun s' => (s'.alarm b).isPeriodic = (s.alarm b).isPeriodic)
    (fun s' call same _ => (alarmStep_isPeriodic s' call b).trans same) rfl
    (Lts.allowed_of_forall _ (fun _ _ => trivial) s calls)

end Replay

/-! ## A one-shot alarm is handed over at most once per set -/

/-- The alarms `callback_dispatch` handed over, in order. -/
def handedOver : List (AlarmReply α κ) → List α
  | [] => []
  | .dispatched a :: replies => a :: handedOver replies
  | _ :: replies => handedOver replies

theorem count_handedOver_of_ne {a : α} {reply : AlarmReply α κ} (other : reply ≠ .dispatched a)
    (replies : List (AlarmReply α κ)) :
    (handedOver (reply :: replies)).count a = (handedOver replies).count a := by
  cases reply <;> simp_all [handedOver]

section OneShot

variable (s : AlarmState α κ) {a : α} (oneShot : (s.alarm a).isPeriodic = false)
  (nodup : s.alarms.Nodup) (calls : List (AlarmOp α κ × UInt64))
  (notSet : ∀ call ∈ calls, call.1.setAlarm? ≠ some a)
include oneShot nodup notSet

/-- From a state whose list holds each alarm once, a run in which a one-shot alarm is not set
hands it over at most once, and only if it is listed. -/
theorem count_handedOver_le :
    (handedOver (Lts.replay alarmStep s calls).1).count a ≤ if a ∈ s.alarms then 1 else 0 := by
  -- the induction carries the kind of `a` and the list without repeats along the run
  induction calls generalizing s with
  | nil => exact Nat.zero_le _
  | cons call calls ih =>
    have rest := ih (alarmStep s call).2 (by rw [alarmStep_isPeriodic]; exact oneShot)
      (alarmStep_nodup s call nodup)
      (fun call' mem => notSet call' (List.mem_cons_of_mem call mem))
    simp only [Lts.replay_cons]
    by_cases dispatched : (alarmStep s call).1 = .dispatched a
    · -- handed over now, and out of the list for the rest of the run
      obtain ⟨listed, gone⟩ := alarmStep_dispatched s call dispatched
      rw [if_neg (gone oneShot nodup)] at rest
      rw [dispatched, handedOver, List.count_cons_self, if_pos listed]
      omega
    · rw [count_handedOver_of_ne dispatched]
      by_cases listed : a ∈ s.alarms
      · rw [if_pos listed]
        exact rest.trans (by split <;> omega)
      · rw [if_neg (alarmStep_not_mem s call listed (notSet call List.mem_cons_self))] at rest
        exact rest.trans (Nat.zero_le _)

theorem count_handedOver_le_one : (handedOver (Lts.replay alarmStep s calls).1).count a ≤ 1 :=
  (count_handedOver_le s oneShot nodup calls notSet).trans (by split <;> omega)

/-- After `alarm_cancel`, a one-shot alarm is not handed over until it is set again. -/
theorem count_handedOver_cancel (nowMs : UInt64) :
    (handedOver (Lts.replay alarmStep s ((.cancel a, nowMs) :: calls)).1).count a = 0 := by
  have gone : a ∉ (alarmStep s (.cancel a, nowMs)).2.alarms := by
    rw [alarmStep_cancel, alarmCancelInternal_alarms]
    exact nodup.not_mem_erase
  have rest := count_handedOver_le (alarmStep s (.cancel a, nowMs)).2
    (by rw [alarmStep_isPeriodic]; exact oneShot) (alarmStep_nodup s _ nodup) calls notSet
  rw [if_neg gone] at rest
  simp only [Lts.replay_cons]
  rw [count_handedOver_of_ne (by rw [alarmStep_cancel]; exact nofun)]
  omega

end OneShot

/-! ## What the code does not keep -/

/-- The alarms' state, with the number of calls made, the call that last put each alarm into the
list, and whether a one-shot alarm was handed over since it was last set. -/
structure Tracked (α κ : Type) where
  state : AlarmState α κ
  calls : ℕ
  scheduledAt : α → ℕ
  fired : α → Bool

/-- What a call `op` that answered `reply` changes of the record. -/
def Tracked.record (t : Tracked α κ) : AlarmOp α κ → AlarmReply α κ → Tracked α κ
  | .set a _ _, _ | .setOnMloop a _ _, _ =>
    { t with
      scheduledAt := Function.update t.scheduledAt a t.calls
      fired := Function.update t.fired a false }
  | .cancel a, _ => { t with fired := Function.update t.fired a false }
  | .dispatch, .dispatched a =>
    -- a periodic alarm is back in the list at its next deadline; a one-shot alarm is done
    if (t.state.alarm a).isPeriodic then
      { t with scheduledAt := Function.update t.scheduledAt a t.calls }
    else { t with fired := Function.update t.fired a true }
  | _, _ => t

/-- A call, and its record. -/
def trackedStep (t : Tracked α κ) (call : AlarmOp α κ × UInt64) :
    AlarmReply α κ × Tracked α κ :=
  ((alarmStep t.state call).1,
    { t.record call.1 (alarmStep t.state call).1 with
      state := (alarmStep t.state call).2
      calls := t.calls + 1 })

/-- Before any call. -/
def trackedInit (isPeriodic : α → Bool) : Tracked α κ :=
  ⟨alarmInit isPeriodic, 0, fun _ => 0, fun _ => false⟩

/-- Whether a call processes an expiry handed over, rather than setting, cancelling or
dispatching. -/
def AlarmOp.processesExpiry : AlarmOp α κ → Bool
  | .queueReady | .mloopReady _ => true
  | _ => false

/-- The calls of the runs studied here: `alarm_set`, `alarm_set_on_mloop`, `alarm_cancel` and
turns of `callback_dispatch`, at a clock reading no earlier than the last. -/
def Serial (t : Tracked α κ) (call : AlarmOp α κ × UInt64) : Prop :=
  t.state.nowMs ≤ call.2 ∧ call.1.processesExpiry = false

section TrackedStep

variable (t : Tracked α κ) (call : AlarmOp α κ × UInt64)

@[simp] theorem trackedStep_fst : (trackedStep t call).1 = (alarmStep t.state call).1 := rfl

@[simp] theorem trackedStep_state : (trackedStep t call).2.state = (alarmStep t.state call).2 := rfl

theorem trackedStep_dispatch (nowMs : UInt64) :
    (trackedStep t (.dispatch, nowMs)).2 =
      { t.record .dispatch (callbackDispatch { t.state with nowMs } nowMs).1 with
        state := (callbackDispatch { t.state with nowMs } nowMs).2
        calls := t.calls + 1 } := rfl

/-- The record is a view of the faithful model: the same replies and states over every run. -/
theorem replay_trackedStep (calls : List (AlarmOp α κ × UInt64)) :
    Lts.replay alarmStep t.state calls =
      ((Lts.replay trackedStep t calls).1, (Lts.replay trackedStep t calls).2.state) :=
  Lts.replay_refines (fun _ _ => True) (fun _ => True) Tracked.state (fun _ _ _ _ => trivial)
    (fun _ _ _ _ => rfl) trivial (Lts.allowed_of_forall _ (fun _ _ => trivial) t calls)

end TrackedStep

/-! ## The order of the list -/

/-- The list in order: each alarm once, by deadline and then by the call that put it in, every
one of them before call number `calls`. -/
structure Ordered (s : AlarmState α κ) (scheduledAt : α → ℕ) (calls : ℕ) : Prop where
  nodup : s.alarms.Nodup
  sorted : s.alarms.Pairwise (KeyStampLt (deadlineKey s) scheduledAt)
  stamped : ∀ a ∈ s.alarms, scheduledAt a < calls

section Ordered

variable {s s' : AlarmState α κ} {scheduledAt : α → ℕ} {calls : ℕ}

omit [DecidableEq α] in
/-- The same list, under the same deadlines, at a later call. -/
theorem Ordered.keep (o : Ordered s scheduledAt calls) {calls' : ℕ} (more : calls ≤ calls')
    (alarms : s'.alarms = s.alarms)
    (deadlines : ∀ x, (s'.alarm x).deadlineMs = (s.alarm x).deadlineMs) :
    Ordered s' scheduledAt calls' where
  nodup := by rw [alarms]; exact o.nodup
  sorted := by rw [alarms, deadlineKey_congr deadlines]; exact o.sorted
  stamped x mem := Nat.lt_of_lt_of_le (o.stamped x (by rwa [alarms] at mem)) more

/-- Taking `a` out keeps the order. -/
theorem Ordered.erase (o : Ordered s scheduledAt calls) (a : α)
    (erased : s'.alarms = s.alarms.erase a)
    (deadlines : ∀ x, x ≠ a → (s'.alarm x).deadlineMs = (s.alarm x).deadlineMs) :
    Ordered s' scheduledAt (calls + 1) where
  nodup := by rw [erased]; exact o.nodup.erase a
  sorted := by
    rw [erased]
    exact pairwise_erase a o.nodup
      (fun x ne => by rw [deadlineKey, deadlineKey, deadlines x ne]) o.sorted
  stamped x mem := by
    rw [erased] at mem
    exact Nat.lt_succ_of_lt (o.stamped x (List.mem_of_mem_erase mem))

/-- Putting `a` back by its deadline, stamped with this call, keeps the order. -/
theorem Ordered.reinsert (o : Ordered s scheduledAt calls) (a : α)
    (inserted : s'.alarms = (s.alarms.erase a).orderedInsert
      (fun u v => deadlineKey s' u < deadlineKey s' v) a)
    (deadlines : ∀ x, x ≠ a → (s'.alarm x).deadlineMs = (s.alarm x).deadlineMs) :
    Ordered s' (Function.update scheduledAt a calls) (calls + 1) where
  nodup := by rw [inserted]; exact nodup_reinsert a _ o.nodup
  sorted := by
    rw [inserted]
    exact pairwise_reinsert a calls o.nodup
      (fun x ne => by rw [deadlineKey, deadlineKey, deadlines x ne]) o.sorted o.stamped
  stamped x mem := by
    by_cases same : x = a
    · subst same
      simp
    · rw [inserted, mem_reinsert_of_ne a _ same] at mem
      rw [Function.update_of_ne same]
      exact Nat.lt_succ_of_lt (o.stamped x mem)

end Ordered

/-! ## The invariant -/

/-- What holds after every run of `Serial` calls. -/
structure ScheduleInv (t : Tracked α κ) : Prop where
  ordered : Ordered t.state t.scheduledAt t.calls
  /-- The list holds exactly the alarms scheduled and not handed over for their deadline. -/
  exactly : ∀ a, a ∈ t.state.alarms ↔ alarmIsScheduled t.state a ∧ t.fired a = false
  /-- A listed alarm has somewhere to be handed over: the message loop or the callback queue. -/
  handled : ∀ a ∈ t.state.alarms,
    ((t.state.alarm a).forMsgLoop || (t.state.alarm a).queue) = true
  /-- A listed alarm was created no later than the last call. -/
  created : ∀ a ∈ t.state.alarms, (t.state.alarm a).creationTimeMs ≤ t.state.nowMs

omit [DecidableEq α] in
theorem inv_trackedInit (isPeriodic : α → Bool) :
    ScheduleInv (trackedInit (κ := κ) isPeriodic) where
  ordered := ⟨List.nodup_nil, List.Pairwise.nil, fun _ => nofun⟩
  exactly _ := by simp [trackedInit, alarmInit, alarmIsScheduled, Alarm.new]
  handled _ := nofun
  created _ := nofun

theorem creationTimeMs_le_of_le {x : Alarm κ} {earlier nowMs : UInt64}
    (created : x.creationTimeMs ≤ earlier) (later : earlier ≤ nowMs) :
    x.creationTimeMs ≤ nowMs := by
  rw [UInt64.le_iff_toNat_le] at *
  omega

section Step

variable {t t' : Tracked α κ} (inv : ScheduleInv t)
include inv

omit [DecidableEq α] in
/-- A call that changes nothing the invariant reads: the list, each alarm's record but for
whether its closure still runs, and the record of the calls. -/
theorem ScheduleInv.keep (alarms : t'.state.alarms = t.state.alarms)
    (alarm : ∀ x, t'.state.alarm x =
      { t.state.alarm x with closurePosted := (t'.state.alarm x).closurePosted })
    (calls : t.calls ≤ t'.calls) (scheduledAt : t'.scheduledAt = t.scheduledAt)
    (fired : t'.fired = t.fired) (later : t.state.nowMs ≤ t'.state.nowMs) : ScheduleInv t' where
  ordered := by
    rw [scheduledAt]
    exact inv.ordered.keep calls alarms fun x => by rw [alarm x]
  exactly x := by
    rw [alarms, alarmIsScheduled, alarm x, fired]
    exact inv.exactly x
  handled x listed := by
    rw [alarm x]
    exact inv.handled x (by rwa [alarms] at listed)
  created x listed := by
    rw [alarm x]
    exact creationTimeMs_le_of_le (inv.created x (by rwa [alarms] at listed)) later

/-- A call that changes one alarm `a`: every other alarm keeps its record, its place in or out of
the list, and whether it was handed over. What is left to show is about `a`. -/
theorem ScheduleInv.of_change (a : α) (ordered : Ordered t'.state t'.scheduledAt t'.calls)
    (alarm : ∀ x, x ≠ a → t'.state.alarm x = t.state.alarm x)
    (mem : ∀ x, x ≠ a → (x ∈ t'.state.alarms ↔ x ∈ t.state.alarms))
    (fired : ∀ x, x ≠ a → t'.fired x = t.fired x) (later : t.state.nowMs ≤ t'.state.nowMs)
    (self : a ∈ t'.state.alarms ↔ alarmIsScheduled t'.state a ∧ t'.fired a = false)
    (selfListed : a ∈ t'.state.alarms →
      ((t'.state.alarm a).forMsgLoop || (t'.state.alarm a).queue) = true ∧
        (t'.state.alarm a).creationTimeMs ≤ t'.state.nowMs) : ScheduleInv t' where
  ordered := ordered
  exactly x := by
    by_cases same : x = a
    · subst same
      exact self
    · rw [mem x same, inv.exactly x, alarmIsScheduled, alarmIsScheduled, alarm x same,
        fired x same]
  handled x listed := by
    by_cases same : x = a
    · subst same
      exact (selfListed listed).1
    · rw [alarm x same]
      exact inv.handled x ((mem x same).1 listed)
  created x listed := by
    by_cases same : x = a
    · subst same
      exact (selfListed listed).2
    · rw [alarm x same]
      exact creationTimeMs_le_of_le (inv.created x ((mem x same).1 listed)) later

section Call

variable {nowMs : UInt64} (later : t.state.nowMs ≤ nowMs) (a : α)
include later

/-- `alarm_set` and `alarm_set_on_mloop`: the alarm goes in by its new deadline, last among
those of equal deadline. -/
theorem ScheduleInv.set (intervalMs : UInt64) (cb : κ) (queue forMsgLoop : Bool)
    (handled : (forMsgLoop || queue) = true) :
    ScheduleInv ⟨alarmSetInternal { t.state with nowMs } a intervalMs cb queue forMsgLoop nowMs,
      t.calls + 1, Function.update t.scheduledAt a t.calls, Function.update t.fired a false⟩ := by
  obtain ⟨posted, alarm⟩ :=
    alarmSetInternal_alarm { t.state with nowMs } a nowMs intervalMs cb queue forMsgLoop
  have alarms :=
    alarmSetInternal_alarms { t.state with nowMs } a nowMs intervalMs cb queue forMsgLoop
  have others : ∀ x, x ≠ a →
      (alarmSetInternal { t.state with nowMs } a intervalMs cb queue forMsgLoop nowMs).alarm x =
        t.state.alarm x :=
    fun x ne => by rw [alarm, Function.update_of_ne ne]
  refine inv.of_change a (inv.ordered.reinsert a alarms fun x ne => by rw [others x ne]) others
    (fun x ne => by rw [alarms, mem_reinsert_of_ne a _ ne])
    (fun x ne => Function.update_of_ne ne _ _) (by rwa [alarmSetInternal_nowMs]) ?_ fun _ => ?_
  · simp [alarms, alarmIsScheduled, alarm]
  · simp [alarm, handled, alarmSetInternal_nowMs]

/-- `alarm_cancel`: the alarm leaves the list and its callback is cleared. -/
theorem ScheduleInv.cancel :
    ScheduleInv ⟨alarmCancelInternal { t.state with nowMs } a nowMs, t.calls + 1, t.scheduledAt,
      Function.update t.fired a false⟩ := by
  obtain ⟨posted, alarm⟩ := alarmCancelInternal_alarm { t.state with nowMs } a nowMs
  have others : ∀ x, x ≠ a → (alarmCancelInternal { t.state with nowMs } a nowMs).alarm x =
      t.state.alarm x :=
    fun x ne => by rw [alarm, Function.update_of_ne ne]
  have absent : a ∉ (alarmCancelInternal { t.state with nowMs } a nowMs).alarms := by
    rw [alarmCancelInternal_alarms]
    exact inv.ordered.nodup.not_mem_erase
  refine inv.of_change a
    (inv.ordered.erase a (alarmCancelInternal_alarms _ a nowMs) fun x ne => by rw [others x ne])
    others (fun x ne => by rw [alarmCancelInternal_alarms]; exact List.mem_erase_of_ne ne)
    (fun x ne => Function.update_of_ne ne _ _) (by rwa [alarmCancelInternal_nowMs]) ?_
    fun listed => absurd listed absent
  rw [iff_false_intro absent, false_iff]
  simp [alarmIsScheduled, alarm]

/-- `callback_dispatch` takes a one-shot alarm out: it is done for its deadline. -/
theorem ScheduleInv.takeExpired_oneShot (oneShot : (t.state.alarm a).isPeriodic = false) :
    ScheduleInv ⟨takeExpired { t.state with nowMs } a nowMs, t.calls + 1, t.scheduledAt,
      Function.update t.fired a true⟩ := by
  have taken := takeExpired_of_oneShot { t.state with nowMs } a nowMs oneShot
  have absent : a ∉ (takeExpired { t.state with nowMs } a nowMs).alarms := by
    rw [taken]
    exact inv.ordered.nodup.not_mem_erase
  refine inv.of_change a (inv.ordered.erase a (by rw [taken]) fun x _ => by rw [taken])
    (fun x _ => by rw [taken]) (fun x ne => by rw [taken]; exact List.mem_erase_of_ne ne)
    (fun x ne => Function.update_of_ne ne _ _) (by rwa [takeExpired_nowMs]) ?_
    fun listed => absurd listed absent
  rw [iff_false_intro absent, false_iff]
  simp

/-- `callback_dispatch` takes a listed periodic alarm out and puts it back by its next deadline,
stamped with this call. -/
theorem ScheduleInv.takeExpired_periodic (listed : a ∈ t.state.alarms)
    (periodic : (t.state.alarm a).isPeriodic = true) :
    ScheduleInv ⟨takeExpired { t.state with nowMs } a nowMs, t.calls + 1,
      Function.update t.scheduledAt a t.calls, t.fired⟩ := by
  obtain ⟨posted, next⟩ := takeExpired_alarm { t.state with nowMs } a nowMs periodic
  have inserted :=
    takeExpired_alarms { t.state with nowMs } a nowMs periodic inv.ordered.nodup.not_mem_erase
  have others : ∀ x, x ≠ a → (takeExpired { t.state with nowMs } a nowMs).alarm x =
      t.state.alarm x :=
    fun x ne => by rw [next, Function.update_of_ne ne]
  -- still scheduled, not handed over for good, and handed over where it was
  have scheduled := (inv.exactly a).1 listed
  refine inv.of_change a (inv.ordered.reinsert a inserted fun x ne => by rw [others x ne]) others
    (fun x ne => by rw [inserted, mem_reinsert_of_ne a _ ne]) (fun x _ => rfl)
    (by rwa [takeExpired_nowMs]) ?_ fun _ => ⟨?_, ?_⟩
  · simpa [inserted, alarmIsScheduled, next] using scheduled
  · simpa [next] using inv.handled a listed
  · simpa [next, takeExpired_nowMs] using creationTimeMs_le_of_le (inv.created a listed) later

omit a

/-- A turn of `callback_dispatch`: nothing is due, or the front alarm is taken out and handed
over. It never asserts, since a listed alarm has somewhere to go. -/
theorem ScheduleInv.dispatch : ScheduleInv (trackedStep t (.dispatch, nowMs)).2 := by
  rw [trackedStep_dispatch]
  rcases callbackDispatch_turn { t.state with nowMs } nowMs with
    ⟨none, alarms, alarm⟩ | ⟨a, rest, front, -, alarms, outcome⟩
  case inl =>
    rw [none]
    exact inv.keep alarms (fun x => by rw [alarm]) (Nat.le_succ _) rfl rfl
      (by rwa [callbackDispatch_nowMs])
  case inr =>
    have listed : a ∈ t.state.alarms := by
      rw [show t.state.alarms = a :: rest from front]
      exact List.mem_cons_self
    -- the front alarm taken out, with the record of what happened to it
    have taken : ScheduleInv ⟨takeExpired { t.state with nowMs } a nowMs, t.calls + 1,
        (t.record .dispatch (.dispatched a)).scheduledAt,
        (t.record .dispatch (.dispatched a)).fired⟩ := by
      cases periodic : (t.state.alarm a).isPeriodic
      case false =>
        simpa [Tracked.record, periodic] using inv.takeExpired_oneShot later a periodic
      case true =>
        simpa [Tracked.record, periodic] using inv.takeExpired_periodic later a listed periodic
    rcases outcome with ⟨dispatched, posted, alarm⟩ | ⟨-, -, notMloop, notQueued⟩
    · -- handing it over only posts its closure
      rw [dispatched]
      refine taken.keep alarms (fun x => ?_) le_rfl rfl rfl (by simp [takeExpired_nowMs])
      rw [alarm]
      by_cases same : x = a
      · subst same
        simp
      · simp [same]
    · have handled := inv.handled a listed
      rw [← (takeExpired_handling { t.state with nowMs } a nowMs).1,
        ← (takeExpired_handling { t.state with nowMs } a nowMs).2, notMloop, notQueued] at handled
      cases handled

/-- A periodic alarm handed over at `nowMs` goes back in at the first point of its grid after
`nowMs`, when that does not overflow. -/
theorem ScheduleInv.dispatch_periodic {a : α}
    (reply : (alarmStep t.state (.dispatch, nowMs)).1 = .dispatched a)
    (periodic : (t.state.alarm a).isPeriodic = true) (period : (t.state.alarm a).periodMs ≠ 0)
    (fits : nowMs.toNat + (t.state.alarm a).periodMs.toNat < 2 ^ 64) :
    FirstOnGridAfter ((alarmStep t.state (.dispatch, nowMs)).2.alarm a).creationTimeMs.toNat
      ((alarmStep t.state (.dispatch, nowMs)).2.alarm a).periodMs.toNat nowMs.toNat
      ((alarmStep t.state (.dispatch, nowMs)).2.alarm a).deadlineMs.toNat := by
  have listed := (alarmStep_dispatched t.state (.dispatch, nowMs) reply).1
  have created := creationTimeMs_le_of_le (inv.created a listed) later
  obtain ⟨deadline, creation, same⟩ :=
    callbackDispatch_periodic { t.state with nowMs } nowMs reply periodic
  rw [alarmStep_dispatch, deadline, creation, same,
    nextDeadlineMs_toNat _ nowMs periodic period created fits]
  exact firstOnGridAfter_next (UInt64.le_iff_toNat_le.1 created) (toNat_pos_of_ne_zero period)

end Call

/-- Every `Serial` call keeps the invariant. -/
theorem ScheduleInv.step {call : AlarmOp α κ × UInt64} (serial : Serial t call) :
    ScheduleInv (trackedStep t call).2 := by
  obtain ⟨op, nowMs⟩ := call
  obtain ⟨later, notExpiry⟩ := serial
  cases op with
  | set a intervalMs cb => exact inv.set later a intervalMs cb true false rfl
  | setOnMloop a intervalMs cb => exact inv.set later a intervalMs cb false true rfl
  | cancel a => exact inv.cancel later a
  | dispatch => exact inv.dispatch later
  | queueReady | mloopReady _ => cases notExpiry

end Step

theorem inv_replay (isPeriodic : α → Bool) {calls : List (AlarmOp α κ × UInt64)}
    (serial : Lts.Allowed Serial trackedStep (trackedInit isPeriodic) calls) :
    ScheduleInv (Lts.replay trackedStep (trackedInit isPeriodic) calls).2 :=
  Lts.replay_invariant Serial ScheduleInv (fun _ _ inv serial => inv.step serial)
    (inv_trackedInit isPeriodic) serial

/-! ## The timer list over a run -/

/-- Over every run of `alarm_set`, `alarm_set_on_mloop`, `alarm_cancel` and turns of
`callback_dispatch`, at a clock that does not go back: the record follows the code's state; the
list is sorted by deadline, alarms of equal deadline in the order they were scheduled, holds each
alarm once, and holds exactly the alarms scheduled and not handed over for their deadline; from
there a one-shot alarm is handed over at most once before it is set again, and never after a
cancel; a periodic alarm handed over goes back in at the first point of its grid after the
dispatch, when that does not overflow; and `alarm_get_remaining_ms` is the time left, or `0`. -/
theorem alarm_runs_keep_schedule (isPeriodic : α → Bool) (calls : List (AlarmOp α κ × UInt64))
    (serial : Lts.Allowed Serial trackedStep (trackedInit isPeriodic) calls) :
    let t := (Lts.replay trackedStep (trackedInit isPeriodic) calls).2
    t.state = (Lts.replay alarmStep (alarmInit isPeriodic) calls).2 ∧
      t.state.alarms.Pairwise (KeyStampLt (deadlineKey t.state) t.scheduledAt) ∧
      t.state.alarms.Nodup ∧
      (∀ a, a ∈ t.state.alarms ↔ alarmIsScheduled t.state a ∧ t.fired a = false) ∧
      (∀ a, isPeriodic a = false → ∀ more : List (AlarmOp α κ × UInt64),
        (∀ call ∈ more, call.1.setAlarm? ≠ some a) →
        (handedOver (Lts.replay alarmStep t.state more).1).count a ≤ 1 ∧
          ∀ nowMs,
            (handedOver (Lts.replay alarmStep t.state ((.cancel a, nowMs) :: more)).1).count a = 0) ∧
      (∀ a nowMs, t.state.nowMs ≤ nowMs →
        (alarmStep t.state (.dispatch, nowMs)).1 = .dispatched a →
        isPeriodic a = true → (t.state.alarm a).periodMs ≠ 0 →
        nowMs.toNat + (t.state.alarm a).periodMs.toNat < 2 ^ 64 →
        FirstOnGridAfter ((alarmStep t.state (.dispatch, nowMs)).2.alarm a).creationTimeMs.toNat
          ((alarmStep t.state (.dispatch, nowMs)).2.alarm a).periodMs.toNat nowMs.toNat
          ((alarmStep t.state (.dispatch, nowMs)).2.alarm a).deadlineMs.toNat) ∧
      ∀ a nowMs, (alarmGetRemainingMs t.state a nowMs).toNat =
        (t.state.alarm a).deadlineMs.toNat - nowMs.toNat := by
  intro t
  have inv := inv_replay isPeriodic serial
  have faithful : t.state = (Lts.replay alarmStep (alarmInit isPeriodic) calls).2 :=
    (congrArg Prod.snd (replay_trackedStep (trackedInit isPeriodic) calls)).symm
  -- no call changes an alarm's kind
  have kind : ∀ a, (t.state.alarm a).isPeriodic = isPeriodic a := fun a => by
    rw [faithful, replay_isPeriodic]
    rfl
  refine ⟨faithful, inv.ordered.sorted, inv.ordered.nodup, inv.exactly,
    fun a oneShot more notSet => ⟨?_, fun nowMs => ?_⟩,
    fun a nowMs later reply periodic period fits => ?_, alarmGetRemainingMs_toNat t.state⟩
  · exact count_handedOver_le_one t.state (by rw [kind]; exact oneShot) inv.ordered.nodup more
      notSet
  · exact count_handedOver_cancel t.state (by rw [kind]; exact oneShot) inv.ordered.nodup more
      notSet nowMs
  · exact inv.dispatch_periodic later reply (by rw [kind]; exact periodic) period fits

/-- Two alarms set at 5 ms for 10 ms, a one-shot one on the callback queue and a periodic one on
the message loop, and a turn of the dispatcher at 15 ms. -/
def twoAlarmsRun : List (AlarmOp Bool Unit × UInt64) :=
  [(.set false 10 (), 5), (.setOnMloop true 10 (), 5), (.dispatch, 15)]

theorem alarm_runs_keep_schedule_two_alarms :
    Lts.Allowed Serial trackedStep (trackedInit fun a : Bool => a) twoAlarmsRun ∧
      let t := (Lts.replay trackedStep (trackedInit fun a : Bool => a) twoAlarmsRun).2
      t.state = (Lts.replay alarmStep (alarmInit fun a : Bool => a) twoAlarmsRun).2 ∧
        t.state.alarms.Pairwise (KeyStampLt (deadlineKey t.state) t.scheduledAt) ∧
        t.state.alarms.Nodup ∧
        (∀ a, a ∈ t.state.alarms ↔ alarmIsScheduled t.state a ∧ t.fired a = false) ∧
        (∀ a, a = false → ∀ more : List (AlarmOp Bool Unit × UInt64),
          (∀ call ∈ more, call.1.setAlarm? ≠ some a) →
          (handedOver (Lts.replay alarmStep t.state more).1).count a ≤ 1 ∧
            ∀ nowMs,
              (handedOver (Lts.replay alarmStep t.state ((.cancel a, nowMs) :: more)).1).count a = 0) ∧
        (∀ a nowMs, t.state.nowMs ≤ nowMs →
          (alarmStep t.state (.dispatch, nowMs)).1 = .dispatched a →
          a = true → (t.state.alarm a).periodMs ≠ 0 →
          nowMs.toNat + (t.state.alarm a).periodMs.toNat < 2 ^ 64 →
          FirstOnGridAfter ((alarmStep t.state (.dispatch, nowMs)).2.alarm a).creationTimeMs.toNat
            ((alarmStep t.state (.dispatch, nowMs)).2.alarm a).periodMs.toNat nowMs.toNat
            ((alarmStep t.state (.dispatch, nowMs)).2.alarm a).deadlineMs.toNat) ∧
        ∀ a nowMs, (alarmGetRemainingMs t.state a nowMs).toNat =
          (t.state.alarm a).deadlineMs.toNat - nowMs.toNat := by
  have serial : Lts.Allowed Serial trackedStep (trackedInit fun a : Bool => a)
      twoAlarmsRun := by
    simp [twoAlarmsRun, Serial, AlarmOp.processesExpiry, trackedInit, alarmInit]
  exact ⟨serial, alarm_runs_keep_schedule _ twoAlarmsRun serial⟩

/-- A periodic alarm set at 1000 ms with the period `UINT64_MAX`: its deadline wraps round to
999 ms, and when the dispatcher hands it over at 1000 ms its next deadline is 999 ms again,
before the dispatch. -/
theorem periodic_deadline_wraps :
    Lts.Allowed Serial trackedStep (trackedInit fun _ : Unit => true)
        [(.set () 0xFFFFFFFFFFFFFFFF (), 1000)] ∧
      let t := (Lts.replay trackedStep (trackedInit fun _ : Unit => true)
        [(.set () 0xFFFFFFFFFFFFFFFF (), 1000)]).2
      (alarmStep t.state (.dispatch, 1000)).1 = .dispatched () ∧
        ¬FirstOnGridAfter ((alarmStep t.state (.dispatch, 1000)).2.alarm ()).creationTimeMs.toNat
          ((alarmStep t.state (.dispatch, 1000)).2.alarm ()).periodMs.toNat 1000
          ((alarmStep t.state (.dispatch, 1000)).2.alarm ()).deadlineMs.toNat := by
  have serial : Lts.Allowed Serial trackedStep (trackedInit fun _ : Unit => true)
      [(.set () 0xFFFFFFFFFFFFFFFF (), 1000)] := by
    simp [Serial, AlarmOp.processesExpiry, trackedInit, alarmInit]
  refine ⟨serial, ?_⟩
  intro t
  have state : t.state = alarmSetInternal
      { (alarmInit fun _ : Unit => true : AlarmState Unit Unit) with nowMs := 1000 } ()
      0xFFFFFFFFFFFFFFFF () true false 1000 := rfl
  obtain ⟨posted, alarm⟩ := alarmSetInternal_alarm
    { (alarmInit fun _ : Unit => true : AlarmState Unit Unit) with nowMs := 1000 } () 1000
    0xFFFFFFFFFFFFFFFF () true false
  -- the first deadline wraps round
  have record : t.state.alarm () =
      ⟨1000, 0xFFFFFFFFFFFFFFFF, 999, 0, true, true, some (), false, posted⟩ := by
    rw [state, alarm]
    simp [alarmInit, Alarm.new]
  have periodic : (t.state.alarm ()).isPeriodic = true := by rw [record]
  have listed : t.state.alarms = [()] := by
    rw [state, alarmSetInternal_alarms]
    rfl
  have due : ¬(t.state.alarm ()).deadlineMs > 1000 := by
    rw [record]
    show ¬(999 : UInt64) > 1000
    decide
  obtain ⟨posted', next⟩ := takeExpired_alarm { t.state with nowMs := 1000 } () 1000 periodic
  have reply : (alarmStep t.state (.dispatch, 1000)).1 = .dispatched () := by
    rw [alarmStep_dispatch, callbackDispatch_of_due { t.state with nowMs := 1000 } 1000 listed due,
      handOver]
    simp [next, record]
  obtain ⟨deadline, -, -⟩ :=
    callbackDispatch_periodic { t.state with nowMs := 1000 } 1000 reply periodic
  -- the next deadline wraps round again
  have nextAt : ((alarmStep t.state (.dispatch, 1000)).2.alarm ()).deadlineMs = 999 := by
    rw [alarmStep_dispatch, deadline]
    simp [nextDeadlineMs, record]
  refine ⟨reply, fun grid => ?_⟩
  rw [nextAt] at grid
  exact absurd grid.2.1 (by decide)

/-! ## Setting again for the callback queue an alarm handed to the message loop

`alarm_set_internal` writes `for_msg_loop` before `remove_pending_alarm` reads it, so `alarm_set`
does not cancel a closure that `callback_dispatch` posted for the alarm to the message loop. -/

/-- When the closure posted for a one-shot alarm runs after `alarm_set`, it runs the new callback
at once, whatever its deadline, and leaves the alarm in the list with no callback. -/
theorem set_runs_posted_closure (s : AlarmState α κ) {a : α}
    (posted : (s.alarm a).closurePosted = true) (oneShot : (s.alarm a).isPeriodic = false)
    (intervalMs : UInt64) (cb : κ) (setMs readyMs : UInt64) :
    let run := Lts.replay alarmStep s [(.set a intervalMs cb, setMs), (.mloopReady a, readyMs)]
    run.1 = [.none, .invoked a cb] ∧ a ∈ run.2.alarms ∧ alarmIsScheduled run.2 a = false := by
  intro run
  have afterSet : (alarmStep s (.set a intervalMs cb, setMs)).2 =
      alarmSetInternal { s with nowMs := setMs } a intervalMs cb true false setMs := rfl
  obtain ⟨posted', alarm⟩ :=
    alarmSetInternal_alarm { s with nowMs := setMs } a setMs intervalMs cb true false
  have stillPosted :
      ((alarmStep s (.set a intervalMs cb, setMs)).2.alarm a).closurePosted = true := by
    rw [afterSet, alarmSetInternal_closurePosted]
    exact posted
  have scheduled : ((alarmStep s (.set a intervalMs cb, setMs)).2.alarm a).callback = some cb := by
    simp [alarm]
  have oneShot' : ((alarmStep s (.set a intervalMs cb, setMs)).2.alarm a).isPeriodic = false := by
    rw [afterSet, alarmSetInternal_isPeriodic]
    exact oneShot
  have listed : a ∈ (alarmStep s (.set a intervalMs cb, setMs)).2.alarms := by
    rw [afterSet, alarmSetInternal_alarms]
    exact (List.mem_orderedInsert _).2 (Or.inl rfl)
  -- the closure runs in the state `alarm_set` left
  have ready := alarmReadyMloop_of_posted
    { (alarmStep s (.set a intervalMs cb, setMs)).2 with nowMs := readyMs } stillPosted scheduled
    oneShot'
  simp only [run, Lts.replay_cons, alarmStep_mloopReady, ready]
  exact ⟨rfl, listed, by simp [alarmIsScheduled]⟩

/-- The run that ends in the assertion of `fixed_queue_enqueue`: a one-shot alarm set on the
message loop for 10 ms at 0 ms and handed over at 10 ms, set for the callback queue at 11 ms, its
posted closure run at 12 ms, and the next turn of `callback_dispatch` at 12 ms, which takes the
alarm, now due at 0 ms, and hands it to no queue. -/
theorem set_on_mloop_then_set_asserts :
    (Lts.replay alarmStep (alarmInit fun _ : Unit => false : AlarmState Unit Unit)
      [(.setOnMloop () 10 (), 0), (.dispatch, 10), (.set () 10 (), 11), (.mloopReady (), 12),
        (.dispatch, 12)]).1 =
      [.none, .dispatched (), .none, .invoked () (), .fatal] := by
  simp [Lts.replay, alarmStep, alarmSetInternal, scheduleNextInstance, removePendingAlarm,
    removeFromQueue, alarmInit, Alarm.new, AlarmState.modify, callbackDispatch, takeExpired,
    handOver, rescheduleRootAlarm, alarmReadyMloop, alarmReadyGeneric, insertByDeadline,
    nextDeadlineMs, armTimers]

end Osi

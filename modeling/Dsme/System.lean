/-
# The emergency call tracker and the state module together

`src/modules/emergencycalltracker.c` listens to MCE's `sig_call_state_ind`
and reports emergency calls to the state module with
`DSM_MSGTYPE_SET_EMERGENCY_CALL_STATE`, broadcast internally: the message
waits in DSME's queue until the state module handles it, and other events may
be handled in between.  The handler of the message (lines 1138-1146 of
`src/modules/state.c`) does not check the sender, so any other module or
client may send it too.  `System` is the two modules and the queue between
them.  `System.sent` records every report the tracker broadcast, and
`System.handled` every report the state module handled, with its sender.

No report of the tracker is lost, duplicated or reordered: what it sent is
what the state module handled from it, in order, then the queue.  The state
module's emergency bit is the last report it handled, whoever sent it.  Once
the queue is drained it agrees with the tracker, unless another sender
reported last (`SysReachable.reports_delivered`).  The tracker reports the
end of a call only right after reporting the call
(`SysReachable.end_after_start`).  While it reports a call that the state
module handled last, only a report of another sender that the call is over
moves the device (`SysReachable.quiet_during_call`).  Every state of the state
module in such a run is reachable on its own, so the results of the other
files hold in it.
-/

import Dsme.Requests

namespace Dsme

/-- `mce_call_state_ind`: the new `emergency_call_started` and the report it
broadcasts, if any. -/
def mceCallStateInd (callState : List Char) (started : Bool) : Bool × Option Bool :=
  if callState ≠ "none".toList ∧ callState = "emergency".toList then (true, some true)
  else if started then (false, some false)
  else (started, none)

/-- A `SET_EMERGENCY_CALL_STATE` the state module handled: the call state it
reports, and whether the tracker sent it. -/
structure Report where
  ongoing : Bool
  fromTracker : Bool
  deriving DecidableEq, Repr

/-- The tracker, the state module and the queue between them. -/
structure System where
  /-- `emergency_call_started` of `mce_call_state_ind`. -/
  started : Bool
  /-- Reports broadcast and not yet handled, oldest first. -/
  queue : List Bool
  /-- Every report the tracker broadcast, oldest first. -/
  sent : List Bool
  /-- Every report the state module handled, oldest first.  Like `sent`, a
  history of the run, not a variable of DSME. -/
  handled : List Report
  state : State

/-- One event of the two modules. -/
inductive SysEvent
  /-- MCE's `sig_call_state_ind` reaches the tracker. -/
  | callStateInd (callState : List Char)
  /-- The state module handles the oldest queued report. -/
  | deliver
  /-- Any other event of the state module, a `SET_EMERGENCY_CALL_STATE` from
  another sender included. -/
  | other (e : Event)

/-- The call state an event reports, if it is a `SET_EMERGENCY_CALL_STATE`. -/
def Event.emergencyReport? : Event → Option Bool
  | .setEmergencyCallState v => some v
  | _ => none

/-- One event, handled to the end. -/
def sysStep (cfg : Config) (sys : System) : SysEvent → System
  | .callStateInd cs =>
    let r := mceCallStateInd cs sys.started
    { sys with started := r.1, queue := sys.queue ++ r.2.toList, sent := sys.sent ++ r.2.toList }
  | .deliver =>
    match sys.queue with
    | [] => sys
    | v :: q =>
      { sys with queue := q, handled := sys.handled ++ [⟨v, true⟩],
                 state := step cfg sys.state (.setEmergencyCallState v) }
  | .other e =>
    { sys with handled := sys.handled ++ (e.emergencyReport?.map fun v => ⟨v, false⟩).toList,
               state := step cfg sys.state e }

/-- Both modules loaded: the tracker's `module_init` sends nothing. -/
def sysInit (cfg : Config) (bootstate : Option (List Char)) (rdMode : Bool) : System :=
  ⟨false, [], [], [], moduleInit cfg bootstate rdMode⟩

/-- The states of the two modules between two events. -/
inductive SysReachable (cfg : Config) : System → Prop
  | init (bootstate : Option (List Char)) (rdMode : Bool) :
      SysReachable cfg (sysInit cfg bootstate rdMode)
  | step {sys : System} (ev : SysEvent) : SysReachable cfg sys →
      SysReachable cfg (sysStep cfg sys ev)

section Frame

variable {s : State} {cfg : Config}

/-- The policy never writes the emergency bit. -/
theorem changeStateIfNecessary_emergencyCallOngoing :
    (changeStateIfNecessary cfg s).emergencyCallOngoing = s.emergencyCallOngoing :=
  changeStateIfNecessary_keeps.emergency

/-- Nor does arming an input timer, whose callback may run at once. -/
theorem startInputTimer_emergencyCallOngoing {k : TimerKind} {set : State → State}
    (hset : ∀ s, SameCore s (set s)) (sec : Nat) :
    (startInputTimer k set cfg sec s).emergencyCallOngoing = s.emergencyCallOngoing := by
  unfold startInputTimer
  split
  · dsimp only
    split
    · simp [delayedInputFn, changeStateIfNecessary_emergencyCallOngoing, (hset _).emergency]
    · simp
  · rfl

/-- Nor does a telinit request, refused or not. -/
theorem telinitHandler_emergencyCallOngoing (st : DsmeState) (conn : Endpoint) :
    (telinitHandler cfg st conn s).emergencyCallOngoing = s.emergencyCallOngoing := by
  cases st <;> simp only [telinitHandler, handleTelinitShutdown, handleTelinitActdead,
    handleTelinitReboot, handleTelinitUser, handleTelinitRequest_eq] <;>
    repeat' split
  all_goals
    simp [denyStateChangeRequest, changeStateIfNecessary_emergencyCallOngoing,
      State.setShutdownRequested, State.setActdeadRequested, State.setRebootRequested]

/-- **Only `SET_EMERGENCY_CALL_STATE` changes the emergency bit.** -/
theorem step_emergencyCallOngoing {e : Event} (he : ∀ v, e ≠ .setEmergencyCallState v) :
    (step cfg s e).emergencyCallOngoing = s.emergencyCallOngoing := by
  have csin : ∀ {s'}, s'.emergencyCallOngoing = s.emergencyCallOngoing →
      (changeStateIfNecessary cfg s').emergencyCallOngoing = s.emergencyCallOngoing :=
    fun h => changeStateIfNecessary_emergencyCallOngoing.trans h
  cases e with
  | telinit conn r =>
    cases r with
    | none => rfl
    | some r => exact telinitHandler_emergencyCallOngoing _ conn
  | shutdownReq conn => exact telinitHandler_emergencyCallOngoing .shutdown conn
  | rebootReq conn => exact telinitHandler_emergencyCallOngoing .reboot conn
  | powerupReq conn => exact telinitHandler_emergencyCallOngoing .user conn
  | setAlarmState v => exact csin rfl
  | setChargerState c =>
    have h₁ : (stopChargerDisconnectTimer s).emergencyCallOngoing = s.emergencyCallOngoing := by
      unfold stopChargerDisconnectTimer; split <;> rfl
    simp only [step, handleSetChargerState]
    generalize (if c then ChargerState.connected else .disconnected) = new
    split
    · split <;> exact (startInputTimer_emergencyCallOngoing
        (fun _ => sameCore_setChargerState _) _).trans h₁
    · exact csin h₁
  | setThermalStatus st =>
    simp only [step]
    split
    · exact startInputTimer_emergencyCallOngoing (fun _ => sameCore_setDeviceOverheated _) _
    · rfl
  | setEmergencyCallState v => exact absurd rfl (he v)
  | setBatteryState empty =>
    simp only [step]
    split
    · exact startInputTimer_emergencyCallOngoing (fun _ => sameCore_setBatteryEmpty _) _
    · rfl
  | blockShutdown conn | allowShutdown conn =>
    simp only [step, State.updateShutdownBlocked]
    repeat' split
    all_goals first | rfl | exact csin rfl
  | runlevelSwitchDone r =>
    simp only [step, runlevelSwitchInd]
    repeat' split
    all_goals simp [delayedUserFn, delayedActdeadFn, delayedRunlevelFn, changeRunlevel,
      State.setActdeadSwitchDone, State.setUserSwitchDone]
  | timerExpired x =>
    simp only [step, timerExpired]
    split
    · rfl
    · rename_i sch _
      cases sch.callback <;>
        simp [timerCallback, delayedOverheatFn, delayedChargerDisconnectFn, delayedBatteryEmptyFn,
          delayedInputFn, changeStateIfNecessary_emergencyCallOngoing, delayedShutdownFn,
          delayedActdeadFn, delayedUserFn, delayedRunlevelFn, changeRunlevel,
          State.setDeviceOverheated, State.setChargerState, State.setBatteryEmpty]
  | stateQuery | setUsbState _ | setBatteryLevel _ | dbusConnected | dbusDisconnect => rfl

/-- `SET_EMERGENCY_CALL_STATE` sets the emergency bit to what it reports. -/
theorem step_setEmergencyCallState_emergencyCallOngoing (v : Bool) :
    (step cfg s (.setEmergencyCallState v)).emergencyCallOngoing = v := by
  simp only [step, changeStateIfNecessary_emergencyCallOngoing, State.updateEmergencyCallOngoing]
  split
  · assumption
  split
  · simp [stopDelayedRunlevelTimers, State.setEmergencyCallOngoing]
  · simp [changeStateIfNecessary_emergencyCallOngoing, State.setEmergencyCallOngoing]

/-- **The emergency bit after any event** is the call state it reports, if it
reports one, and the bit before otherwise. -/
theorem step_emergencyCallOngoing_eq (e : Event) :
    (step cfg s e).emergencyCallOngoing = e.emergencyReport?.getD s.emergencyCallOngoing := by
  by_cases he : ∃ v, e = .setEmergencyCallState v
  · obtain ⟨v, rfl⟩ := he
    exact step_setEmergencyCallState_emergencyCallOngoing v
  · have he' : ∀ v, e ≠ .setEmergencyCallState v := fun v hv => he ⟨v, hv⟩
    rw [step_emergencyCallOngoing he']
    cases e <;> first | rfl | exact absurd rfl (he' _)

end Frame

/-- Every `false` report comes right after a `true` one. -/
def EndsFollowStarts (sent : List Bool) : Prop :=
  ∀ pre post, sent = pre ++ false :: post → pre.getLast? = some true

/-- A new report keeps it when a `false` follows a `true`. -/
theorem EndsFollowStarts.append {l : List Bool} {r : Bool} (h : EndsFollowStarts l)
    (hr : r = false → l.getLast? = some true) : EndsFollowStarts (l ++ [r]) := by
  intro pre post e
  rcases post.eq_nil_or_concat with rfl | ⟨L, b, rfl⟩
  · obtain ⟨rfl, hb⟩ := List.append_inj' e rfl
    exact hr (by simpa using hb)
  · rw [List.concat_eq_append, ← List.cons_append, ← List.append_assoc] at e
    exact h pre L (List.append_inj' e rfl).1

/-- When the tracker sent the last report handled, it is also the last of the
tracker's reports handled. -/
theorem getLast?_tracker {l : List Report} (hl : ∀ r ∈ l.getLast?, r.fromTracker = true) :
    ((l.filter Report.fromTracker).map Report.ongoing).getLast? = l.getLast?.map Report.ongoing := by
  rcases l.eq_nil_or_concat with rfl | ⟨L, b, rfl⟩
  · rfl
  · have hb : b.fromTracker = true := hl b (by simp)
    simp [List.filter_append, hb]

/-- The emergency bit after `module_init` is its initial value. -/
theorem moduleInit_emergencyCallOngoing (cfg : Config) (b : Option (List Char)) (rd : Bool) :
    (moduleInit cfg b rd).emergencyCallOngoing = false := by
  have h0 := (sameCore_initialStateBits (b.getD "USER".toList) {}).emergency
  simp only [moduleInit, changeStateIfNecessary_emergencyCallOngoing, setInitialStateBits]
  generalize initialStateBits (b.getD "USER".toList) {} = r at h0
  obtain ⟨s1, p, m⟩ := r
  dsimp only at h0 ⊢
  split
  · simpa [enterMalf] using h0
  · exact h0

namespace SysReachable

variable {cfg : Config} {sys : System}

/-- The state module's part of a run of the two modules is a run of its own. -/
theorem reachable (h : SysReachable cfg sys) : Reachable cfg sys.state := by
  induction h with
  | init b rd => exact .init b rd
  | step ev _ ih =>
    cases ev with
    | callStateInd cs => exact ih
    | deliver =>
      simp only [sysStep]
      split
      · exact ih
      · exact ih.step (.setEmergencyCallState _)
    | other e => exact ih.step e

/-- The tracker's reports are those the state module handled from it, then
the queue, and the emergency bit is the last report handled. -/
theorem delivery (h : SysReachable cfg sys) :
    sys.sent = (sys.handled.filter Report.fromTracker).map Report.ongoing ++ sys.queue ∧
      sys.state.emergencyCallOngoing = (sys.handled.getLast?.map Report.ongoing).getD false := by
  induction h with
  | init b rd => exact ⟨rfl, moduleInit_emergencyCallOngoing cfg b rd⟩
  | @step sys ev _ ih =>
    obtain ⟨hs, he⟩ := ih
    cases ev with
    | callStateInd cs => exact ⟨by simp [sysStep, hs], he⟩
    | deliver =>
      simp only [sysStep]
      split
      · exact ⟨hs, he⟩
      · rename_i v q hq
        exact ⟨by simp [hs, hq, List.filter_append],
          by simp [step_setEmergencyCallState_emergencyCallOngoing]⟩
    | other e =>
      simp only [sysStep, step_emergencyCallOngoing_eq]
      cases e.emergencyReport? with
      | none => exact ⟨by simpa using hs, by simpa using he⟩
      | some v => exact ⟨by simpa [List.filter_append] using hs, by simp⟩

/-- The tracker's flag is its last report. -/
theorem started_eq (h : SysReachable cfg sys) : sys.started = sys.sent.getLast?.getD false := by
  induction h with
  | init b rd => rfl
  | @step sys ev _ ih =>
    cases ev with
    | callStateInd cs =>
      simp only [sysStep, mceCallStateInd]
      split
      · simp
      split
      · simp
      · simp [*]
    | deliver =>
      simp only [sysStep]
      split <;> exact ih
    | other e => exact ih

/-- **The tracker reports the end of a call only right after reporting the
call.** -/
theorem end_after_start (h : SysReachable cfg sys) : EndsFollowStarts sys.sent := by
  induction h with
  | init b rd => intro pre post e; exact absurd e (by simp [sysInit])
  | @step sys ev hr ih =>
    cases ev with
    | callStateInd cs =>
      have hst := hr.started_eq
      simp only [sysStep, mceCallStateInd]
      split
      · exact ih.append (by simp)
      split
      · refine ih.append fun _ => ?_
        cases hl : sys.sent.getLast? <;> simp_all
      · simpa using ih
    | deliver =>
      simp only [sysStep]
      split <;> exact ih
    | other e => exact ih

/-- When the tracker sent the last report handled, the last report queued, or
the emergency bit when none is, is the tracker's flag. -/
theorem emergency_agrees (h : SysReachable cfg sys)
    (hl : ∀ r ∈ sys.handled.getLast?, r.fromTracker = true) :
    sys.queue.getLast?.getD sys.state.emergencyCallOngoing = sys.started := by
  obtain ⟨hs, he⟩ := h.delivery
  rw [h.started_eq, hs, he, List.getLast?_append, getLast?_tracker hl]
  cases sys.queue.getLast? <;> rfl

/-- **While MCE reports a call that the state module handled last, only
another sender can end the freeze**: with the queue drained and the tracker's
report the last one handled, no event of the two modules but a
`SET_EMERGENCY_CALL_STATE` from another sender saying the call is over changes
`current_state` or the emergency bit, or makes the state module send a
transition message. -/
theorem quiet_during_call (h : SysReachable cfg sys) (hq : sys.queue = [])
    (hs : sys.started = true) (hl : ∀ r ∈ sys.handled.getLast?, r.fromTracker = true)
    (ev : SysEvent) (hev : ev ≠ .other (.setEmergencyCallState false)) :
    Quiet sys.state (sysStep cfg sys ev).state := by
  have he : sys.state.emergencyCallOngoing = true := by
    simpa [hq, hs] using h.emergency_agrees hl
  cases ev with
  | callStateInd cs => exact Quiet.refl _
  | deliver =>
    simp only [sysStep, hq]
    exact Quiet.refl _
  | other e => exact Quiet.step he h.reachable.inv e fun he' => hev (he' ▸ rfl)

end SysReachable

/-- MCE reports an emergency call, the state module handles the report, and
the call ends while the end report is still queued. -/
def callEndQueued : System :=
  sysStep (Config.plain false) (sysStep (Config.plain false) (sysStep (Config.plain false)
    (sysInit (Config.plain false) none false) (.callStateInd "emergency".toList)) .deliver)
    (.callStateInd "none".toList)

theorem end_after_start_call_end_queued : EndsFollowStarts callEndQueued.sent :=
  SysReachable.end_after_start
    (.step (.callStateInd _) (.step .deliver (.step (.callStateInd _) (.init none false))))

/-- MCE reports an emergency call and the state module handles the report. -/
def callHandled : System :=
  sysStep (Config.plain false) (sysStep (Config.plain false) (sysInit (Config.plain false) none false)
    (.callStateInd "emergency".toList)) .deliver

theorem reachable_callHandled : SysReachable (Config.plain false) callHandled :=
  .step .deliver (.step (.callStateInd _) (.init none false))

/-- Another sender reports the end of the call the tracker still reports: the
state module follows it, so the tracker's report must be the last handled. -/
example : (sysStep (Config.plain false) callHandled
      (.other (.setEmergencyCallState false))).state.emergencyCallOngoing = false ∧
    (sysStep (Config.plain false) callHandled (.other (.setEmergencyCallState false))).started =
      true := by
  decide

/-- A shutdown request during the call moves nothing. -/
theorem quiet_during_call_shutdown_req :
    callHandled.queue = [] ∧ callHandled.started = true ∧
      (∀ r ∈ callHandled.handled.getLast?, r.fromTracker = true) ∧
      Quiet callHandled.state (sysStep (Config.plain false) callHandled
        (.other (.shutdownReq .root))).state :=
  ⟨by decide, by decide, by decide, SysReachable.quiet_during_call reachable_callHandled
    (by decide) (by decide) (by decide) _ nofun⟩

end Dsme

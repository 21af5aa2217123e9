/-
# The data of the state module

`src/modules/state.c` keeps the device state policy of DSME in a set of file
statics: thirteen input bits, a charger tri-state, the battery level, the
selected `current_state`, and six `dsme_timer_t` handles.  This file declares
them as one record, `State`, together with what the module sends (`Msg`,
`Out`) and the timer service it schedules its callbacks with
(`src/include/dsme/timers.h`).

The timer service is external; it is modelled here as the set of live
handles, each with the callback it was created for, a counter that hands out
fresh non-zero handles, and a flag that records a `dsme_destroy_timer` on a
handle that is not live.  Whether a creation succeeds is the service's
business: `Config.timerOk` answers it per creation attempt.

Everything the module broadcasts is appended to `State.outbox`, oldest first:
the history of a run is part of its state, so that properties of the message
sequence are properties of reachable states.
-/

import Mathlib.Logic.Function.Basic

namespace Dsme

/-- Modelled from the spec: `dsme_state_t` is declared in libdsme
(`dsme/state_states.h`); its members are the ones `state.c` names through
`DSME_STATE_*` and `handle_telinit_*`. -/
inductive DsmeState
  | notSet | shutdown | user | actdead | reboot | test | malf | boot | «local»
  deriving DecidableEq, Repr

/-- `dsme_runlevel_t` (`src/modules/runlevel.h`): `LOCAL` and `TEST` share the
code `3`, so a runlevel is its integer code. -/
abbrev Runlevel := Nat

namespace Runlevel

/-- `DSME_RUNLEVEL_SHUTDOWN`. -/
def shutdown : Runlevel := 0
/-- `DSME_RUNLEVEL_MALF`. -/
def malf : Runlevel := 2
/-- `DSME_RUNLEVEL_LOCAL`. -/
def «local» : Runlevel := 3
/-- `DSME_RUNLEVEL_TEST`. -/
def test : Runlevel := 3
/-- `DSME_RUNLEVEL_ACTDEAD`. -/
def actdead : Runlevel := 4
/-- `DSME_RUNLEVEL_USER`. -/
def user : Runlevel := 5
/-- `DSME_RUNLEVEL_REBOOT`. -/
def reboot : Runlevel := 6

end Runlevel

/-- `state2runlevel`, with the fall-through of `DSME_STATE_LOCAL` into the
`DSME_STATE_ACTDEAD` case that the source has. -/
def state2runlevel : DsmeState → Runlevel
  | .shutdown => Runlevel.shutdown
  | .test => Runlevel.test
  | .user => Runlevel.user
  | .«local» => Runlevel.actdead
  | .actdead => Runlevel.actdead
  | .reboot => Runlevel.reboot
  | _ => Runlevel.shutdown

/-- `charger_state_t`. -/
inductive ChargerState
  | unknown | connected | disconnected
  deriving DecidableEq, Repr

/-- The payload of `DSM_MSGTYPE_SET_THERMAL_STATUS`. -/
inductive ThermalStatus
  | normal | lowTemp | overheated
  deriving DecidableEq, Repr

/-- `DSM_MSGTYPE_ENTER_MALF.reason`: `strcmp(reason, "HARDWARE")` decides it. -/
inductive MalfReason
  | hardware | software
  deriving DecidableEq, Repr

/-- The messages the state module sends, with the fields it fills in. -/
inductive Msg
  | saveDataInd
  | stateChangeInd (state : DsmeState)
  | stateReqDeniedInd (state : DsmeState) (reason : List Char)
  | batteryEmptyInd
  | changeRunlevel (runlevel : Runlevel)
  | shutdown (runlevel : Runlevel)
  /-- `enter_malf`: the reason and component it was handed (null is `none`),
  and the details sent as the extra. -/
  | enterMalf (reason : Option MalfReason) (component : Option (List Char))
      (details : Option (List Char))
  deriving DecidableEq, Repr

/-- How a message leaves the module. -/
inductive Out
  /-- `modules_broadcast` and `modules_broadcast_with_extra`. -/
  | broadcast (msg : Msg)
  /-- `modules_broadcast_internally` and its `_with_extra` form. -/
  | broadcastInternally (msg : Msg)
  /-- `endpoint_send` to the client that asked. -/
  | send (msg : Msg)
  deriving DecidableEq, Repr

namespace Out

/-- The state a broadcast `STATE_CHANGE_IND` announces. -/
def announced? : Out → Option DsmeState
  | .broadcast (.stateChangeInd x) => some x
  | _ => none

/-- The runlevel a `SHUTDOWN` or `CHANGE_RUNLEVEL` message carries. -/
def runlevel? : Out → Option Runlevel
  | .broadcastInternally (.shutdown r) => some r
  | .broadcastInternally (.changeRunlevel r) => some r
  | _ => none

/-- A `SHUTDOWN` message. -/
def isShutdown : Out → Bool
  | .broadcastInternally (.shutdown _) => true
  | _ => false

/-- A broadcast of `SAVE_DATA_IND`, `STATE_CHANGE_IND`, `SHUTDOWN` or
`CHANGE_RUNLEVEL`: the messages by which the module moves the device. -/
def IsTransition : Out → Prop
  | .broadcast .saveDataInd | .broadcast (.stateChangeInd _)
  | .broadcastInternally (.shutdown _) | .broadcastInternally (.changeRunlevel _) => True
  | _ => False

end Out

/-- The six `dsme_timer_t` statics of `state.c`, named after their variables;
each has its own callback (`delayed_overheat_fn`, ...). -/
inductive TimerKind
  | overheat | chargerDisconnect | batteryEmpty
  | delayedShutdown | delayedActdead | delayedUser
  deriving DecidableEq, Repr

/-- The three timers `stop_delayed_runlevel_timers` cancels together. -/
def TimerKind.IsDelay (k : TimerKind) : Prop :=
  k = .delayedShutdown ∨ k = .delayedActdead ∨ k = .delayedUser

/-- What a live timer was scheduled with by `dsme_create_timer_seconds`. -/
structure Scheduled where
  seconds : Nat
  callback : TimerKind
  deriving DecidableEq, Repr

/-- The timer service behind `src/include/dsme/timers.h`. -/
structure TimerService where
  /-- The scheduled timers, not yet fired or destroyed, by handle. -/
  live : Nat → Option Scheduled := fun _ => none
  /-- The handle the next creation attempt hands out; handles are never reused. -/
  next : Nat := 1
  /-- `dsme_destroy_timer` was called on a handle that was not live. -/
  strayDestroy : Bool := false

namespace TimerService

/-- `dsme_create_timer_seconds`: a fresh handle, or `0` when the attempt fails. -/
def create (ok : Nat → Bool) (seconds : Nat) (k : TimerKind) (t : TimerService) :
    Nat × TimerService :=
  if ok t.next then
    (t.next, { t with live := Function.update t.live t.next (some ⟨seconds, k⟩),
                      next := t.next + 1 })
  else (0, { t with next := t.next + 1 })

/-- `dsme_destroy_timer`. -/
def destroy (h : Nat) (t : TimerService) : TimerService :=
  { t with live := Function.update t.live h none,
           strayDestroy := t.strayDestroy || (t.live h).isNone }

/-- The service drops a timer whose callback returned `0`. -/
def expire (h : Nat) (t : TimerService) : TimerService :=
  { t with live := Function.update t.live h none }

end TimerService

/-- `DSME_MINIMUM_BATTERY_TO_USER`. -/
def dsmeMinimumBatteryToUser : Int := 3

/-- Modelled from the spec: `DSME_BATTERY_LEVEL_UNKNOWN` is declared in libdsme;
the comment on `dsme_battery_level` in `state.c` gives it as `-1`. -/
def dsmeBatteryLevelUnknown : Int := -1

/-- The file statics of `state.c`, with their initial values, the timer
service, the messages sent so far, and whether `dsme_main_loop_quit` was
called. -/
structure State where
  chargerState : ChargerState := .unknown
  alarmPending : Bool := false
  deviceOverheated : Bool := false
  emergencyCallOngoing : Bool := false
  shutdownBlocked : Bool := false
  mountedToPc : Bool := false
  batteryEmpty : Bool := false
  shutdownRequested : Bool := false
  actdeadRequested : Bool := false
  rebootRequested : Bool := false
  testmodeRequested : Bool := false
  actdeadSwitchDone : Bool := false
  userSwitchDone : Bool := false
  dsmeBatteryLevel : Int := dsmeBatteryLevelUnknown
  currentState : DsmeState := .notSet
  /-- The six handle variables, `0` when not armed. -/
  handle : TimerKind → Nat := fun _ => 0
  timers : TimerService := {}
  /-- Everything sent so far, oldest first. -/
  outbox : List Out := []
  /-- `dsme_main_loop_quit(EXIT_FAILURE)` was called. -/
  quit : Bool := false

/-- What a run of the module does not choose: the build mode, the cached
answer of `dsme_home_is_encrypted`, whether a reboot parameter file can be
read and copied, and which timer creations succeed. -/
structure Config where
  /-- `DSME_SUPPORT_DIRECT_USER_ACTDEAD` is defined. -/
  direct : Bool
  homeIsEncrypted : Bool
  /-- `need_to_use_reboot` succeeds for this input path. -/
  rebootParam : List Char → Bool
  /-- The creation attempt with this number succeeds. -/
  timerOk : Nat → Bool

namespace State

/-- Append a message to the outbox. -/
def emit (o : Out) (s : State) : State := { s with outbox := s.outbox ++ [o] }

/-- Store a new value in one handle variable. -/
def setHandle (k : TimerKind) (h : Nat) (s : State) : State :=
  { s with handle := Function.update s.handle k h }

section Fields

variable (o : Out) (k : TimerKind) (h : Nat) (s : State)

@[simp] theorem emit_outbox : (s.emit o).outbox = s.outbox ++ [o] := rfl
@[simp] theorem emit_currentState : (s.emit o).currentState = s.currentState := rfl
@[simp] theorem emit_emergencyCallOngoing :
    (s.emit o).emergencyCallOngoing = s.emergencyCallOngoing := rfl
@[simp] theorem emit_deviceOverheated : (s.emit o).deviceOverheated = s.deviceOverheated := rfl
@[simp] theorem emit_batteryEmpty : (s.emit o).batteryEmpty = s.batteryEmpty := rfl
@[simp] theorem emit_handle : (s.emit o).handle = s.handle := rfl
@[simp] theorem emit_timers : (s.emit o).timers = s.timers := rfl

@[simp] theorem setHandle_handle : (s.setHandle k h).handle = Function.update s.handle k h := rfl
@[simp] theorem setHandle_currentState : (s.setHandle k h).currentState = s.currentState := rfl
@[simp] theorem setHandle_outbox : (s.setHandle k h).outbox = s.outbox := rfl
@[simp] theorem setHandle_emergencyCallOngoing :
    (s.setHandle k h).emergencyCallOngoing = s.emergencyCallOngoing := rfl
@[simp] theorem setHandle_deviceOverheated :
    (s.setHandle k h).deviceOverheated = s.deviceOverheated := rfl
@[simp] theorem setHandle_batteryEmpty : (s.setHandle k h).batteryEmpty = s.batteryEmpty := rfl
@[simp] theorem setHandle_timers : (s.setHandle k h).timers = s.timers := rfl

end Fields

end State

/-- A list has a first element past a prefix of `P`s that satisfies `Q`
exactly when its head satisfies `Q`, or its head is a `P` and its tail has
one: the shape of the loops that read until they find what they wait for. -/
theorem exists_split_cons {α : Type} {P Q : α → Prop} {a : α} {l : List α} :
    (∃ pre b post, a :: l = pre ++ b :: post ∧ (∀ x ∈ pre, P x) ∧ Q b) ↔
      Q a ∨ P a ∧ ∃ pre b post, l = pre ++ b :: post ∧ (∀ x ∈ pre, P x) ∧ Q b := by
  constructor
  · rintro ⟨pre, b, post, e, hp, hq⟩
    rcases List.cons_eq_append_iff.1 e with ⟨rfl, e'⟩ | ⟨pre', rfl, e'⟩
    · obtain ⟨rfl, -⟩ := List.cons.inj e'
      exact .inl hq
    · exact .inr ⟨hp a (List.mem_cons_self _ _), pre', b, post, e',
        fun x hx => hp x (List.mem_cons_of_mem _ hx), hq⟩
  · rintro (hq | ⟨hp, pre, b, post, rfl, hpre, hq⟩)
    · exact ⟨[], a, l, rfl, by simp, hq⟩
    · exact ⟨a :: pre, b, post, rfl, List.forall_mem_cons.2 ⟨hp, hpre⟩, hq⟩

end Dsme

/-
# The transition controller

`change_state`, the delay timers and `try_to_change_state` of
`src/modules/state.c`, lines 569-851, and the three timers that set an input
bit after a delay (overheat, charger disconnect, battery empty), lines
853-921 and 1148-1182.

Both build modes are one definition: `Config.direct` is
`DSME_SUPPORT_DIRECT_USER_ACTDEAD`.  Without it the `USER`/`ACTDEAD` changes
go through `REBOOT` or `SHUTDOWN` and the shutdown-delay timer; with it they
arm the actdead-delay or user-delay timer, which refuses to start while any
of the three delay timers is armed.

The six timers share two patterns: a handle variable that is only written by
a creation when it is `0`, and a stop that destroys the handle it holds and
clears it (`State.createTimer`, `State.stopTimer`).  The callbacks of the
three input timers re-run the policy before they clear their own handle.

`TryResult` lists everything `try_to_change_state` can do, and
`tryToChangeState_result` proves the list complete; the invariant proofs case
on it instead of unfolding the definition.
-/

import Dsme.Policy

namespace Dsme

/-- `SHUTDOWN_TIMER_TIMEOUT`. -/
def shutdownTimerTimeout : Nat := 2
/-- `ACTDEAD_TIMER_MIN_TIMEOUT`. -/
def actdeadTimerMinTimeout : Nat := 2
/-- `ACTDEAD_TIMER_MAX_TIMEOUT`. -/
def actdeadTimerMaxTimeout : Nat := 45
/-- `USER_TIMER_MIN_TIMEOUT`. -/
def userTimerMinTimeout : Nat := 2
/-- `USER_TIMER_MAX_TIMEOUT`. -/
def userTimerMaxTimeout : Nat := 45
/-- `DSME_THERMAL_SHUTDOWN_TIMER`. -/
def dsmeThermalShutdownTimer : Nat := 8
/-- `DSME_BATTERY_EMPTY_SHUTDOWN_TIMER`. -/
def dsmeBatteryEmptyShutdownTimer : Nat := 8
/-- `CHARGER_DISCONNECT_TIMEOUT`. -/
def chargerDisconnectTimeout : Nat := 15
/-- `CHARGER_DISCOVERY_TIMEOUT`. -/
def chargerDiscoveryTimeout : Nat := 5

namespace State

/-- `x = dsme_create_timer_seconds(seconds, fn, 0)` for the handle variable `x` of `k`. -/
def createTimer (cfg : Config) (k : TimerKind) (seconds : Nat) (s : State) : State :=
  let r := s.timers.create cfg.timerOk seconds k
  { s with timers := r.2, handle := Function.update s.handle k r.1 }

/-- `if (x) { dsme_destroy_timer(x); x = 0; }` for the handle variable `x` of `k`. -/
def stopTimer (k : TimerKind) (s : State) : State :=
  { s with timers := if s.handle k = 0 then s.timers else s.timers.destroy (s.handle k),
           handle := Function.update s.handle k 0 }

/-- `dsme_destroy_timer(h)`. -/
def destroyTimer (h : Nat) (s : State) : State := { s with timers := s.timers.destroy h }

/-- The timer service drops the timer `h` after its callback returned `0`. -/
def expireTimer (h : Nat) (s : State) : State := { s with timers := s.timers.expire h }

/-- `dsme_main_loop_quit(EXIT_FAILURE)` when a creation left the variable of `k` at `0`. -/
def quitIfIdle (k : TimerKind) (s : State) : State := { s with quit := s.quit || s.handle k == 0 }

/-- What a direct-mode starter returns after creating into the variable of
`k`: whether it got a handle, and the state, quitting the main loop if not. -/
def started (k : TimerKind) (s : State) : Bool × State := (s.handle k != 0, s.quitIfIdle k)

end State

section Fields

variable (s : State) (cfg : Config) (k : TimerKind) (sec h : Nat)

@[simp] theorem State.createTimer_currentState :
    (s.createTimer cfg k sec).currentState = s.currentState := rfl
@[simp] theorem State.createTimer_outbox : (s.createTimer cfg k sec).outbox = s.outbox := rfl
@[simp] theorem State.createTimer_emergencyCallOngoing :
    (s.createTimer cfg k sec).emergencyCallOngoing = s.emergencyCallOngoing := rfl
@[simp] theorem State.createTimer_deviceOverheated :
    (s.createTimer cfg k sec).deviceOverheated = s.deviceOverheated := rfl
@[simp] theorem State.createTimer_batteryEmpty :
    (s.createTimer cfg k sec).batteryEmpty = s.batteryEmpty := rfl
@[simp] theorem State.createTimer_handle :
    (s.createTimer cfg k sec).handle =
      Function.update s.handle k (s.timers.create cfg.timerOk sec k).1 := rfl
@[simp] theorem State.createTimer_timers :
    (s.createTimer cfg k sec).timers = (s.timers.create cfg.timerOk sec k).2 := rfl

@[simp] theorem State.stopTimer_currentState : (s.stopTimer k).currentState = s.currentState := rfl
@[simp] theorem State.stopTimer_outbox : (s.stopTimer k).outbox = s.outbox := rfl
@[simp] theorem State.stopTimer_emergencyCallOngoing :
    (s.stopTimer k).emergencyCallOngoing = s.emergencyCallOngoing := rfl
@[simp] theorem State.stopTimer_deviceOverheated :
    (s.stopTimer k).deviceOverheated = s.deviceOverheated := rfl
@[simp] theorem State.stopTimer_batteryEmpty : (s.stopTimer k).batteryEmpty = s.batteryEmpty := rfl
@[simp] theorem State.stopTimer_handle : (s.stopTimer k).handle = Function.update s.handle k 0 :=
  rfl
theorem State.stopTimer_timers :
    (s.stopTimer k).timers = if s.handle k = 0 then s.timers else s.timers.destroy (s.handle k) :=
  rfl

@[simp] theorem State.quitIfIdle_currentState :
    (s.quitIfIdle k).currentState = s.currentState := rfl
@[simp] theorem State.quitIfIdle_outbox : (s.quitIfIdle k).outbox = s.outbox := rfl
@[simp] theorem State.quitIfIdle_emergencyCallOngoing :
    (s.quitIfIdle k).emergencyCallOngoing = s.emergencyCallOngoing := rfl
@[simp] theorem State.quitIfIdle_deviceOverheated :
    (s.quitIfIdle k).deviceOverheated = s.deviceOverheated := rfl
@[simp] theorem State.quitIfIdle_batteryEmpty : (s.quitIfIdle k).batteryEmpty = s.batteryEmpty :=
  rfl
@[simp] theorem State.quitIfIdle_handle : (s.quitIfIdle k).handle = s.handle := rfl
@[simp] theorem State.quitIfIdle_timers : (s.quitIfIdle k).timers = s.timers := rfl

@[simp] theorem State.destroyTimer_currentState :
    (s.destroyTimer h).currentState = s.currentState := rfl
@[simp] theorem State.destroyTimer_outbox : (s.destroyTimer h).outbox = s.outbox := rfl
@[simp] theorem State.destroyTimer_emergencyCallOngoing :
    (s.destroyTimer h).emergencyCallOngoing = s.emergencyCallOngoing := rfl
@[simp] theorem State.destroyTimer_deviceOverheated :
    (s.destroyTimer h).deviceOverheated = s.deviceOverheated := rfl
@[simp] theorem State.destroyTimer_batteryEmpty :
    (s.destroyTimer h).batteryEmpty = s.batteryEmpty := rfl
@[simp] theorem State.destroyTimer_handle : (s.destroyTimer h).handle = s.handle := rfl
@[simp] theorem State.destroyTimer_timers : (s.destroyTimer h).timers = s.timers.destroy h := rfl

@[simp] theorem State.expireTimer_currentState :
    (s.expireTimer h).currentState = s.currentState := rfl
@[simp] theorem State.expireTimer_outbox : (s.expireTimer h).outbox = s.outbox := rfl
@[simp] theorem State.expireTimer_emergencyCallOngoing :
    (s.expireTimer h).emergencyCallOngoing = s.emergencyCallOngoing := rfl
@[simp] theorem State.expireTimer_deviceOverheated :
    (s.expireTimer h).deviceOverheated = s.deviceOverheated := rfl
@[simp] theorem State.expireTimer_batteryEmpty : (s.expireTimer h).batteryEmpty = s.batteryEmpty :=
  rfl
@[simp] theorem State.expireTimer_handle : (s.expireTimer h).handle = s.handle := rfl
@[simp] theorem State.expireTimer_timers : (s.expireTimer h).timers = s.timers.expire h := rfl

end Fields

/-- The messages `change_state` broadcasts: `SAVE_DATA_IND` first when going
down, then `STATE_CHANGE_IND`. -/
def announce (new : DsmeState) : List Out :=
  (if new = .shutdown ∨ new = .reboot then [.broadcast .saveDataInd] else []) ++
    [.broadcast (.stateChangeInd new)]

/-- `change_state`. -/
def changeState (new : DsmeState) (s : State) : State :=
  { s with outbox := s.outbox ++ announce new, currentState := new }

section Fields

variable (s : State) (new : DsmeState)

@[simp] theorem changeState_currentState : (changeState new s).currentState = new := rfl
@[simp] theorem changeState_outbox : (changeState new s).outbox = s.outbox ++ announce new := rfl
@[simp] theorem changeState_emergencyCallOngoing :
    (changeState new s).emergencyCallOngoing = s.emergencyCallOngoing := rfl
@[simp] theorem changeState_deviceOverheated :
    (changeState new s).deviceOverheated = s.deviceOverheated := rfl
@[simp] theorem changeState_batteryEmpty : (changeState new s).batteryEmpty = s.batteryEmpty :=
  rfl
@[simp] theorem changeState_handle : (changeState new s).handle = s.handle := rfl
@[simp] theorem changeState_timers : (changeState new s).timers = s.timers := rfl

end Fields

/-- `stop_delayed_runlevel_timers`. -/
def stopDelayedRunlevelTimers (s : State) : State :=
  ((s.stopTimer .delayedShutdown).stopTimer .delayedActdead).stopTimer .delayedUser

/-- `start_delayed_shutdown_timer`: the first armed timer wins; a failed
creation quits the main loop. -/
def startDelayedShutdownTimer (cfg : Config) (seconds : Nat) (s : State) : State :=
  if s.handle .delayedShutdown = 0 then
    ((stopDelayedRunlevelTimers s).createTimer cfg .delayedShutdown seconds).quitIfIdle
      .delayedShutdown
  else s

/-- `delayed_shutdown_fn`: `SHUTDOWN` with the runlevel of `current_state`. -/
def delayedShutdownFn (s : State) : State :=
  (s.emit (.broadcastInternally (.shutdown (state2runlevel s.currentState)))).setHandle
    .delayedShutdown 0

/-- `start_delayed_actdead_timer` and `start_delayed_user_timer`: they start
only when none of the three delay timers is armed, and report success. -/
def startDelayedRunlevelTimer (k : TimerKind) (cfg : Config) (seconds : Nat) (s : State) :
    Bool × State :=
  if s.handle .delayedShutdown = 0 ∧ s.handle .delayedActdead = 0 ∧
      s.handle .delayedUser = 0 then
    (s.createTimer cfg k seconds).started k
  else (false, s)

/-- `start_delayed_actdead_timer`. -/
def startDelayedActdeadTimer : Config → Nat → State → Bool × State :=
  startDelayedRunlevelTimer .delayedActdead

/-- `start_delayed_user_timer`. -/
def startDelayedUserTimer : Config → Nat → State → Bool × State :=
  startDelayedRunlevelTimer .delayedUser

/-- `change_runlevel`. -/
def changeRunlevel (state : DsmeState) (s : State) : State :=
  s.emit (.broadcastInternally (.changeRunlevel (state2runlevel state)))

/-- `delayed_actdead_fn` and `delayed_user_fn`. -/
def delayedRunlevelFn (k : TimerKind) (state : DsmeState) (s : State) : State :=
  (changeRunlevel state s).setHandle k 0

/-- `delayed_actdead_fn`. -/
def delayedActdeadFn : State → State := delayedRunlevelFn .delayedActdead .actdead

/-- `delayed_user_fn`. -/
def delayedUserFn : State → State := delayedRunlevelFn .delayedUser .user

/-- The `target_tag` of `need_to_use_reboot`. -/
def rebootTargetTag : DsmeState → List Char
  | .shutdown => "shutdown".toList
  | .user => "user".toList
  | .actdead => "actdead".toList
  | .reboot => "reboot".toList
  | .test => "test".toList
  | .malf => "malf".toList
  | .boot => "boot".toList
  | .«local» => "local".toList
  | .notSet => "unknown".toList

/-- `need_to_use_reboot`: whether `/etc/dsme/reboot-to-<target>-<charger>.param`
is read and copied to `/run/systemd/reboot-param`. -/
def needToUseReboot (cfg : Config) (target : DsmeState) (s : State) : Bool :=
  cfg.rebootParam ("/etc/dsme/reboot-to-".toList ++ rebootTargetTag target ++ ['-'] ++
    (if s.chargerState = .connected then "with-charger" else "without-charger").toList ++
    ".param".toList)

/-- `Shutdown` or `Reboot`: the states the shutdown-delay timer is armed for. -/
def IsDown (x : DsmeState) : Prop := x = .shutdown ∨ x = .reboot

instance : DecidablePred IsDown := fun _ => inferInstanceAs (Decidable (_ ∨ _))

theorem not_isDown {x : DsmeState} (h : x ≠ .shutdown ∧ x ≠ .reboot) : ¬IsDown x :=
  fun hd => hd.elim h.1 h.2

/-- `change_state(state); start_delayed_shutdown_timer(SHUTDOWN_TIMER_TIMEOUT)`:
the way down, taken by three branches of `try_to_change_state`. -/
def changeStateAndShutdown (cfg : Config) (state : DsmeState) (s : State) : State :=
  startDelayedShutdownTimer cfg shutdownTimerTimeout (changeState state s)

/-- `if (start_delayed_..._timer(seconds)) change_state(new_state)`. -/
def changeStateIfStarted (r : Bool × State) (new : DsmeState) : State :=
  if r.1 then changeState new r.2 else r.2

/-- `s'` agrees with `s` on the handles, the timers, `current_state`, the
outbox and the emergency bit. -/
structure SameCore (s s' : State) : Prop where
  handle : s'.handle = s.handle
  timers : s'.timers = s.timers
  currentState : s'.currentState = s.currentState
  outbox : s'.outbox = s.outbox
  emergency : s'.emergencyCallOngoing = s.emergencyCallOngoing

/-- `s'` differs from `s` at most in request and switch-done bits. -/
structure BitsOnly (s s' : State) extends SameCore s s' : Prop where
  overheated : s'.deviceOverheated = s.deviceOverheated
  empty : s'.batteryEmpty = s.batteryEmpty

/-- `try_to_change_state`. -/
def tryToChangeState (cfg : Config) (new : DsmeState) (s : State) : State :=
  match new with
  | .shutdown | .reboot => changeStateAndShutdown cfg new s
  | .user | .actdead =>
    if s.currentState = .notSet then changeState new s
    else if s.currentState = .actdead then
      if s.dsmeBatteryLevel < dsmeMinimumBatteryToUser then s.setShutdownRequested true
      else
        let s := s.setUserSwitchDone false
        if cfg.direct then
          changeStateIfStarted (startDelayedUserTimer cfg
            (if s.actdeadSwitchDone then userTimerMinTimeout else userTimerMaxTimeout) s) new
        else changeStateAndShutdown cfg .reboot s
    else if s.currentState = .user then
      let s := s.setActdeadSwitchDone false
      if cfg.direct then
        changeStateIfStarted (startDelayedActdeadTimer cfg
          (if s.userSwitchDone then actdeadTimerMinTimeout else actdeadTimerMaxTimeout) s) new
      else changeStateAndShutdown cfg (if needToUseReboot cfg new s then .reboot else .shutdown) s
    else s
  | .test | .«local» => if s.currentState = .notSet then changeState new s else s
  | _ => s

/-- **What `try_to_change_state` can do**: nothing; re-assert the shutdown
request when the battery is too low to leave `Actdead`; announce the first
state; take the way down, to the state asked for or from `Actdead` or `User`;
or, in direct mode only, from `Actdead` or `User` start the delay timer of the other
direction and announce the new state if it started.  The last two may first
clear a switch-done bit. -/
inductive TryResult (cfg : Config) (new : DsmeState) (s : State) : State → Prop
  | unchanged : TryResult cfg new s s
  | lowBattery : TryResult cfg new s (s.setShutdownRequested true)
  | first : s.currentState = .notSet → TryResult cfg new s (changeState new s)
  | down {n : DsmeState} {s' : State} : IsDown n → BitsOnly s s' →
      (n = new ∨ s.currentState = .actdead ∨ s.currentState = .user) →
      TryResult cfg new s (changeStateAndShutdown cfg n s')
  | delayed {k : TimerKind} {sec : Nat} {s' : State} :
      (k = .delayedUser ∧ s.currentState = .actdead) ∨
        (k = .delayedActdead ∧ s.currentState = .user) →
      (new = .user ∨ new = .actdead) → BitsOnly s s' → cfg.direct = true →
      TryResult cfg new s (changeStateIfStarted (startDelayedRunlevelTimer k cfg sec s') new)

theorem tryToChangeState_result (cfg : Config) (new : DsmeState) (s : State) :
    TryResult cfg new s (tryToChangeState cfg new s) := by
  have bits : ∀ {s'}, SameCore s s' → s'.deviceOverheated = s.deviceOverheated →
      s'.batteryEmpty = s.batteryEmpty → BitsOnly s s' := fun h hov hem => ⟨h, hov, hem⟩
  cases new with
  | shutdown => exact .down (.inl rfl) (bits ⟨rfl, rfl, rfl, rfl, rfl⟩ rfl rfl) (.inl rfl)
  | reboot => exact .down (.inr rfl) (bits ⟨rfl, rfl, rfl, rfl, rfl⟩ rfl rfl) (.inl rfl)
  | user | actdead =>
    simp only [tryToChangeState]
    by_cases h₀ : s.currentState = .notSet
    · rw [if_pos h₀]; exact .first h₀
    rw [if_neg h₀]
    by_cases h₁ : s.currentState = .actdead
    · rw [if_pos h₁]
      by_cases hb : s.dsmeBatteryLevel < dsmeMinimumBatteryToUser
      · rw [if_pos hb]; exact .lowBattery
      rw [if_neg hb]
      cases hd : cfg.direct
      · exact .down (.inr rfl) (bits ⟨rfl, rfl, rfl, rfl, rfl⟩ rfl rfl) (.inr (.inl h₁))
      · exact .delayed (.inl ⟨rfl, h₁⟩) (by simp) (bits ⟨rfl, rfl, rfl, rfl, rfl⟩ rfl rfl) hd
    rw [if_neg h₁]
    by_cases h₂ : s.currentState = .user
    · rw [if_pos h₂]
      cases hd : cfg.direct
      · exact .down (by split <;> simp [IsDown]) (bits ⟨rfl, rfl, rfl, rfl, rfl⟩ rfl rfl)
          (.inr (.inr h₂))
      · exact .delayed (.inr ⟨rfl, h₂⟩) (by simp) (bits ⟨rfl, rfl, rfl, rfl, rfl⟩ rfl rfl) hd
    rw [if_neg h₂]
    exact .unchanged
  | test | «local» =>
    simp only [tryToChangeState]
    split
    · exact .first ‹_›
    · exact .unchanged
  | notSet | malf | boot => exact .unchanged

/-- `change_state_if_necessary`. -/
def changeStateIfNecessary (cfg : Config) (s : State) : State :=
  if s.currentState = selectState cfg s then s else tryToChangeState cfg (selectState cfg s) s

/-- `delayed_overheat_fn`, `delayed_charger_disconnect_fn` and
`delayed_battery_empty_fn`: set an input, re-run the policy, clear the handle. -/
def delayedInputFn (k : TimerKind) (set : State → State) (cfg : Config) (s : State) : State :=
  (changeStateIfNecessary cfg (set s)).setHandle k 0

/-- `delayed_overheat_fn`. -/
def delayedOverheatFn : Config → State → State :=
  delayedInputFn .overheat (State.setDeviceOverheated true)

/-- `delayed_charger_disconnect_fn`. -/
def delayedChargerDisconnectFn : Config → State → State :=
  delayedInputFn .chargerDisconnect (State.setChargerState .disconnected)

/-- `delayed_battery_empty_fn`. -/
def delayedBatteryEmptyFn : Config → State → State :=
  delayedInputFn .batteryEmpty (State.setBatteryEmpty true)

/-- `start_overheat_timer`, `start_charger_disconnect_timer` and
`start_battery_empty_timer`: a failed creation runs the callback at once. -/
def startInputTimer (k : TimerKind) (set : State → State) (cfg : Config) (seconds : Nat)
    (s : State) : State :=
  if s.handle k = 0 then
    let s := s.createTimer cfg k seconds
    if s.handle k = 0 then delayedInputFn k set cfg s else s
  else s

/-- `start_overheat_timer`. -/
def startOverheatTimer (cfg : Config) : State → State :=
  startInputTimer .overheat (State.setDeviceOverheated true) cfg dsmeThermalShutdownTimer

/-- `start_charger_disconnect_timer`. -/
def startChargerDisconnectTimer : Config → Nat → State → State :=
  startInputTimer .chargerDisconnect (State.setChargerState .disconnected)

/-- `start_battery_empty_timer`. -/
def startBatteryEmptyTimer (cfg : Config) : State → State :=
  startInputTimer .batteryEmpty (State.setBatteryEmpty true) cfg dsmeBatteryEmptyShutdownTimer

/-- `stop_charger_disconnect_timer`: a pending disconnect is committed. -/
def stopChargerDisconnectTimer (s : State) : State :=
  if s.handle .chargerDisconnect = 0 then s
  else (s.stopTimer .chargerDisconnect).setChargerState .disconnected

/-- `stop_overheat_timer`. -/
def stopOverheatTimer (s : State) : State := s.stopTimer .overheat

/-- `stop_battery_empty_timer`. -/
def stopBatteryEmptyTimer (s : State) : State := s.stopTimer .batteryEmpty

/-- The callback each timer was created with. -/
def timerCallback (cfg : Config) : TimerKind → State → State
  | .overheat => delayedOverheatFn cfg
  | .chargerDisconnect => delayedChargerDisconnectFn cfg
  | .batteryEmpty => delayedBatteryEmptyFn cfg
  | .delayedShutdown => delayedShutdownFn
  | .delayedActdead => delayedActdeadFn
  | .delayedUser => delayedUserFn

end Dsme

/-
# The request surface and one event step

The `DSME_HANDLER`s of `src/modules/state.c` (lines 886-1335), the telinit
dispatch (lines 962-1074), the D-Bus signal `runlevel_switch_ind` (lines
1246-1286) and the dispatch of a scheduled timer by the timer service, as
one function `step` from a state and an `Event` to the next state.

Two answers about the sender come from outside the module and travel with
the message: `endpoint_is_privileged` and `endpoint_is_dsme`.  Binding the
D-Bus signal is left out: `runlevelSwitchDone` may arrive at any time, which
admits more runs than `DBUS_CONNECTED` does.
-/

import Dsme.Transition

namespace Dsme

/-- What the module asks about the sender of a request. -/
structure Endpoint where
  /-- `endpoint_is_privileged`. -/
  privileged : Bool
  /-- `endpoint_is_dsme`. -/
  isDsme : Bool
  deriving DecidableEq, Repr

/-- A privileged client other than DSME itself. -/
def Endpoint.root : Endpoint := ⟨true, false⟩

/-- DSME's own endpoint. -/
def Endpoint.dsme : Endpoint := ⟨true, true⟩

/-- One event the module reacts to. -/
inductive Event
  /-- `DSM_MSGTYPE_TELINIT`; the runlevel is the extra, a C string or null. -/
  | telinit (sender : Endpoint) (runlevel : Option (List Char))
  | shutdownReq (sender : Endpoint)
  | rebootReq (sender : Endpoint)
  | powerupReq (sender : Endpoint)
  | stateQuery
  | setAlarmState (alarmSet : Bool)
  | setUsbState (mountedToPc : Bool)
  | setChargerState (connected : Bool)
  | setThermalStatus (status : ThermalStatus)
  | setEmergencyCallState (ongoing : Bool)
  | setBatteryState (empty : Bool)
  | setBatteryLevel (level : Int)
  | dbusConnected
  | dbusDisconnect
  | blockShutdown (sender : Endpoint)
  | allowShutdown (sender : Endpoint)
  /-- The D-Bus signal `com.nokia.startup.signal.runlevel_switch_done`. -/
  | runlevelSwitchDone (runlevel : Int)
  /-- The timer service dispatches the timer with this handle. -/
  | timerExpired (handle : Nat)
  deriving DecidableEq, Repr

/-- The name `DSME_STATE(STATE, VALUE)` gives each state, `#STATE`. -/
def stateName : DsmeState → List Char
  | .notSet => "NOT_SET".toList
  | .shutdown => "SHUTDOWN".toList
  | .user => "USER".toList
  | .actdead => "ACTDEAD".toList
  | .reboot => "REBOOT".toList
  | .test => "TEST".toList
  | .malf => "MALF".toList
  | .boot => "BOOT".toList
  | .«local» => "LOCAL".toList

/-- The table `states[]` in declaration order. -/
def states : List DsmeState :=
  [.notSet, .shutdown, .user, .actdead, .reboot, .test, .malf, .boot, .«local»]

/-- `strcasecmp(a, b) == 0`. -/
def strcaseeq (a b : List Char) : Bool :=
  a.map Char.toLower == b.map Char.toLower

/-- `state_value`: the first state whose name matches, ignoring case, else `NOT_SET`. -/
def stateValue (name : List Char) : DsmeState :=
  (states.find? fun st => strcaseeq (stateName st) name).getD .notSet

namespace State

/-- `update_emergency_call_ongoing`: a starting call stops the delay timers, an
ending one re-runs the policy. -/
def updateEmergencyCallOngoing (cfg : Config) (v : Bool) (s : State) : State :=
  if s.emergencyCallOngoing = v then s
  else if v then stopDelayedRunlevelTimers (s.setEmergencyCallOngoing v)
  else changeStateIfNecessary cfg (s.setEmergencyCallOngoing v)

/-- `update_shutdown_blocked`: unblocking forgets the shutdown and reboot
requests and re-runs the policy. -/
def updateShutdownBlocked (cfg : Config) (v : Bool) (s : State) : State :=
  if s.shutdownBlocked = v then s
  else if v then s.setShutdownBlocked v
  else changeStateIfNecessary cfg
    (((s.setShutdownBlocked v).setShutdownRequested false).setRebootRequested false)

end State

/-- `deny_state_change_request`. -/
def denyStateChangeRequest (denied : DsmeState) (reason : List Char) (s : State) : State :=
  s.emit (.broadcast (.stateReqDeniedInd denied reason))

/-- `is_state_change_request_acceptable`: no shutdown or reboot while mounted to a PC. -/
def isStateChangeRequestAcceptable (requested : DsmeState) (s : State) : Bool × State :=
  if (requested = .shutdown ∨ requested = .reboot) ∧ s.mountedToPc then
    (false, denyStateChangeRequest requested "usb".toList s)
  else (true, s)

/-- `handle_telinit_SHUTDOWN`, `handle_telinit_ACTDEAD` and `handle_telinit_REBOOT`:
privilege check, mass-storage gate, request bits, policy. -/
def handleTelinitRequest (requested : DsmeState) (update : State → State) (cfg : Config)
    (conn : Endpoint) (s : State) : State :=
  if conn.privileged then
    let r := isStateChangeRequestAcceptable requested s
    if r.1 then changeStateIfNecessary cfg (update r.2) else r.2
  else s

/-- The gated handlers unfolded: a refusal only broadcasts `STATE_REQ_DENIED_IND`. -/
theorem handleTelinitRequest_eq (requested : DsmeState) (update : State → State)
    (cfg : Config) (conn : Endpoint) (s : State) :
    handleTelinitRequest requested update cfg conn s =
      if conn.privileged then
        if (requested = .shutdown ∨ requested = .reboot) ∧ s.mountedToPc then
          denyStateChangeRequest requested "usb".toList s
        else changeStateIfNecessary cfg (update s)
      else s := by
  unfold handleTelinitRequest isStateChangeRequestAcceptable
  split_ifs <;> rfl

/-- `handle_telinit_SHUTDOWN`. -/
def handleTelinitShutdown : Config → Endpoint → State → State :=
  handleTelinitRequest .shutdown fun s => (s.setShutdownRequested true).setActdeadRequested false

/-- `handle_telinit_ACTDEAD`. -/
def handleTelinitActdead : Config → Endpoint → State → State :=
  handleTelinitRequest .actdead fun s => s.setActdeadRequested true

/-- `handle_telinit_REBOOT`. -/
def handleTelinitReboot : Config → Endpoint → State → State :=
  handleTelinitRequest .reboot fun s => (s.setRebootRequested true).setActdeadRequested false

/-- `handle_telinit_USER`: a powerup, with no mass-storage gate. -/
def handleTelinitUser (cfg : Config) (conn : Endpoint) (s : State) : State :=
  if conn.privileged then
    changeStateIfNecessary cfg ((s.setShutdownRequested false).setActdeadRequested false)
  else s

/-- `telinit_handler`: `NOT_SET`, `TEST`, `MALF`, `BOOT` and `LOCAL` only log. -/
def telinitHandler (cfg : Config) : DsmeState → Endpoint → State → State
  | .shutdown => handleTelinitShutdown cfg
  | .user => handleTelinitUser cfg
  | .actdead => handleTelinitActdead cfg
  | .reboot => handleTelinitReboot cfg
  | _ => fun _ s => s

/-- The `DSM_MSGTYPE_SET_CHARGER_STATE` handler: a disconnect in `ACTDEAD` is
committed after a grace period. -/
def handleSetChargerState (cfg : Config) (connected : Bool) (s : State) : State :=
  let new := if connected then ChargerState.connected else .disconnected
  let s := stopChargerDisconnectTimer s
  if s.currentState = .actdead ∧ new = .disconnected then
    if s.chargerState = .unknown then startChargerDisconnectTimer cfg chargerDiscoveryTimeout s
    else startChargerDisconnectTimer cfg chargerDisconnectTimeout s
  else changeStateIfNecessary cfg (s.setChargerState new)

/-- `runlevel_switch_ind`: a finished runlevel switch fires the pending
delay timer of the other direction at once. -/
def runlevelSwitchInd (runlevel : Int) (s : State) : State :=
  if runlevel = Runlevel.actdead then
    let s := s.setActdeadSwitchDone true
    if s.handle .delayedUser = 0 then s
    else delayedUserFn (s.destroyTimer (s.handle .delayedUser))
  else if runlevel = Runlevel.user then
    let s := s.setUserSwitchDone true
    if s.handle .delayedActdead = 0 then s
    else delayedActdeadFn (s.destroyTimer (s.handle .delayedActdead))
  else s

/-- The timer service runs the callback of a live timer, which returns `0`,
and drops the timer. -/
def timerExpired (cfg : Config) (h : Nat) (s : State) : State :=
  match s.timers.live h with
  | none => s
  | some sch => (timerCallback cfg sch.callback s).expireTimer h

/-- One event, handled to the end. -/
def step (cfg : Config) (s : State) : Event → State
  | .telinit conn runlevel =>
    match runlevel with
    | some r => telinitHandler cfg (stateValue r) conn s
    | none => s
  | .shutdownReq conn => handleTelinitShutdown cfg conn s
  | .rebootReq conn => handleTelinitReboot cfg conn s
  | .powerupReq conn => handleTelinitUser cfg conn s
  | .stateQuery => s.emit (.send (.stateChangeInd s.currentState))
  | .setAlarmState v => changeStateIfNecessary cfg (s.setAlarmPending v)
  | .setUsbState v => s.setMountedToPc v
  | .setChargerState connected => handleSetChargerState cfg connected s
  | .setThermalStatus st => if st = .overheated then startOverheatTimer cfg s else s
  | .setEmergencyCallState v =>
    changeStateIfNecessary cfg (s.updateEmergencyCallOngoing cfg v)
  | .setBatteryState empty =>
    if empty then startBatteryEmptyTimer cfg (s.emit (.broadcast .batteryEmptyInd))
    else s.stopTimer .batteryEmpty
  | .setBatteryLevel level => s.setDsmeBatteryLevel level
  | .dbusConnected | .dbusDisconnect => s
  | .blockShutdown conn => if conn.isDsme then s.updateShutdownBlocked cfg true else s
  | .allowShutdown conn => if conn.isDsme then s.updateShutdownBlocked cfg false else s
  | .runlevelSwitchDone r => runlevelSwitchInd r s
  | .timerExpired h => timerExpired cfg h s

/-- A run: the events one after another. -/
def run (cfg : Config) (s : State) (es : List Event) : State :=
  es.foldl (step cfg) s

@[simp] theorem run_nil (cfg : Config) (s : State) : run cfg s [] = s := rfl

@[simp] theorem run_cons (cfg : Config) (s : State) (e : Event) (es : List Event) :
    run cfg s (e :: es) = run cfg (step cfg s e) es := rfl

theorem run_append (cfg : Config) (s : State) (es es' : List Event) :
    run cfg s (es ++ es') = run cfg (run cfg s es) es' :=
  List.foldl_append _ _ _ _

end Dsme

/-
# The input setters and the policy

The `set_*` functions of `src/modules/state.c` compare, log and assign one
input bit; with the log left out each is a field assignment.  `select_state`
is the policy: a pure function of the bits, the charger state and the cached
`dsme_home_is_encrypted()` answer, whose first rule hands back
`current_state` while an emergency call is ongoing.

`selectState_of_emergency` and `selectState_of_latch` are the two facts about
the policy the engine invariants rest on: an emergency call freezes it, and
outside one the thermal and battery-empty latches decide it.  The policy
reads no timer, handle or message (`selectState_frame`).
-/

import Dsme.Basic

namespace Dsme

namespace State

/-- `set_charger_state`. -/
def setChargerState (v : ChargerState) (s : State) : State := { s with chargerState := v }
/-- `set_alarm_pending`. -/
def setAlarmPending (v : Bool) (s : State) : State := { s with alarmPending := v }
/-- `set_device_overheated`. -/
def setDeviceOverheated (v : Bool) (s : State) : State := { s with deviceOverheated := v }
/-- The assignment in `update_emergency_call_ongoing`. -/
def setEmergencyCallOngoing (v : Bool) (s : State) : State := { s with emergencyCallOngoing := v }
/-- The assignment in `update_shutdown_blocked`. -/
def setShutdownBlocked (v : Bool) (s : State) : State := { s with shutdownBlocked := v }
/-- `dsme_battery_level = battery->level`. -/
def setDsmeBatteryLevel (v : Int) (s : State) : State := { s with dsmeBatteryLevel := v }
/-- `set_mounted_to_pc`. -/
def setMountedToPc (v : Bool) (s : State) : State := { s with mountedToPc := v }
/-- `set_battery_empty`. -/
def setBatteryEmpty (v : Bool) (s : State) : State := { s with batteryEmpty := v }
/-- `set_shutdown_requested`. -/
def setShutdownRequested (v : Bool) (s : State) : State := { s with shutdownRequested := v }
/-- `set_actdead_requested`. -/
def setActdeadRequested (v : Bool) (s : State) : State := { s with actdeadRequested := v }
/-- `set_reboot_requested`. -/
def setRebootRequested (v : Bool) (s : State) : State := { s with rebootRequested := v }
/-- `set_testmode_requested`. -/
def setTestmodeRequested (v : Bool) (s : State) : State := { s with testmodeRequested := v }
/-- `set_actdead_switch_done`. -/
def setActdeadSwitchDone (v : Bool) (s : State) : State := { s with actdeadSwitchDone := v }
/-- `set_user_switch_done`. -/
def setUserSwitchDone (v : Bool) (s : State) : State := { s with userSwitchDone := v }

end State

/-- `select_state`: the first matching rule wins. -/
def selectState (cfg : Config) (s : State) : DsmeState :=
  if s.emergencyCallOngoing then s.currentState
  else if s.deviceOverheated then .shutdown
  else if s.batteryEmpty then .shutdown
  else if s.shutdownBlocked then s.currentState
  else if s.testmodeRequested then .test
  else if s.actdeadRequested then .actdead
  else if s.shutdownRequested || s.rebootRequested then
    if s.shutdownRequested && s.chargerState = .disconnected &&
        (!s.alarmPending || cfg.homeIsEncrypted) then .shutdown
    else if s.rebootRequested then .reboot
    else .actdead
  else .user

/-- The policy reads no handle, timer or message. -/
theorem selectState_frame (cfg : Config) (s : State) (o : List Out) (h : TimerKind → Nat)
    (t : TimerService) :
    selectState cfg { s with outbox := o, handle := h, timers := t } = selectState cfg s := rfl

/-- An emergency call freezes the policy. -/
theorem selectState_of_emergency {cfg : Config} {s : State}
    (h : s.emergencyCallOngoing = true) : selectState cfg s = s.currentState := by
  simp [selectState, h]

/-- Outside an emergency call the thermal and battery-empty latches select `Shutdown`. -/
theorem selectState_of_latch {cfg : Config} {s : State} (he : s.emergencyCallOngoing = false)
    (h : (s.deviceOverheated || s.batteryEmpty) = true) : selectState cfg s = .shutdown := by
  cases ho : s.deviceOverheated <;> simp_all [selectState]

end Dsme

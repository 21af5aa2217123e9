/-
# Requests: the mass-storage gate, the privilege checks and shutdown blocks

`is_state_change_request_acceptable` refuses `SHUTDOWN` and `REBOOT`
requests while the device is mounted to a PC.  It is asked only by the
handlers of those two requests (and of `ACTDEAD`, which it never refuses):
a powerup, or a telinit `USER` or `ACTDEAD`, is not gated, although without
`DSME_SUPPORT_DIRECT_USER_ACTDEAD` the policy then goes down through
`Shutdown` or `Reboot`.

Requests from unprivileged senders, and shutdown blocks from senders other
than DSME, leave the state as it was, so runs that differ only by them end in
the same state with the same messages sent (`run_eq_of_padded`).

`update_shutdown_blocked` forgets the shutdown and reboot requests when the
block is lifted (`step_block_allow`), also those made before the block.

A powerup that `try_to_change_state` refuses for low battery does not restore
the requests it cleared.  It ends with `shutdown_requested` set and
`actdead_requested` clear, whatever they were before
(`low_battery_powerup_sets_shutdown_request`).
-/

import Dsme.Terminal

namespace Dsme

variable {s : State} {cfg : Config}

/-- A request the module ignores: one from an unprivileged sender, or a
shutdown block or unblock from a sender other than DSME. -/
def Event.IsIgnored : Event → Prop
  | .telinit conn _ | .shutdownReq conn | .rebootReq conn | .powerupReq conn =>
    conn.privileged = false
  | .blockShutdown conn | .allowShutdown conn => conn.isDsme = false
  | _ => False

/-- An ignored request leaves the state, the timers and the outbox as they were. -/
theorem step_of_isIgnored {e : Event} (h : e.IsIgnored) : step cfg s e = s := by
  cases e with
  | telinit conn r =>
    cases r with
    | none => rfl
    | some r =>
      simp only [step]
      cases stateValue r <;> simp_all [Event.IsIgnored, telinitHandler, handleTelinitShutdown,
        handleTelinitActdead, handleTelinitReboot, handleTelinitUser, handleTelinitRequest_eq]
  | shutdownReq conn | rebootReq conn | powerupReq conn =>
    simp_all [Event.IsIgnored, step, handleTelinitShutdown, handleTelinitReboot, handleTelinitUser,
      handleTelinitRequest_eq]
  | blockShutdown conn | allowShutdown conn => simp_all [Event.IsIgnored, step]
  | _ => exact absurd h id

/-- Two event lists that differ only by ignored requests, inserted anywhere in
either of them. -/
inductive Padded : List Event → List Event → Prop
  | nil : Padded [] []
  | cons (e : Event) {es es' : List Event} : Padded es es' → Padded (e :: es) (e :: es')
  | left {e : Event} {es es' : List Event} : e.IsIgnored → Padded es es' → Padded (e :: es) es'
  | right {e : Event} {es es' : List Event} : e.IsIgnored → Padded es es' → Padded es (e :: es')

/-- **Unprivileged requests do not interfere**: runs that differ only by
ignored requests end in the same state, with the same messages sent. -/
theorem run_eq_of_padded {es es' : List Event} (h : Padded es es') (s : State) :
    run cfg s es = run cfg s es' := by
  induction h generalizing s with
  | nil => rfl
  | cons e _ ih => exact ih _
  | left he _ ih => rw [run_cons, step_of_isIgnored he]; exact ih s
  | right he _ ih => rw [run_cons, step_of_isIgnored he]; exact ih s

theorem run_eq_of_padded_boot :
    Padded [.shutdownReq .root] [.powerupReq ⟨false, false⟩, .shutdownReq .root,
      .allowShutdown .root] ∧
    bootRun (Config.plain false) [.shutdownReq .root] =
      bootRun (Config.plain false)
        [.powerupReq ⟨false, false⟩, .shutdownReq .root, .allowShutdown .root] :=
  have hp : Padded [.shutdownReq .root] [.powerupReq ⟨false, false⟩, .shutdownReq .root,
      .allowShutdown .root] := .right rfl (.cons _ (.right rfl .nil))
  ⟨hp, run_eq_of_padded hp _⟩

/-- **A shutdown block and its release** from DSME, with nothing in between,
re-run the policy with the shutdown and reboot requests forgotten. -/
theorem step_block_allow (hb : s.shutdownBlocked = false) :
    step cfg (step cfg s (.blockShutdown .dsme)) (.allowShutdown .dsme) =
      changeStateIfNecessary cfg ((s.setShutdownRequested false).setRebootRequested false) := by
  have he : (s.setShutdownBlocked true).setShutdownBlocked false = s := by
    cases s; simp_all [State.setShutdownBlocked]
  have hblock : s.updateShutdownBlocked cfg true = s.setShutdownBlocked true := by
    simp [State.updateShutdownBlocked, hb]
  simp only [step, Endpoint.dsme, if_true, hblock]
  rw [State.updateShutdownBlocked, if_neg (by simp [State.setShutdownBlocked]),
    if_neg Bool.false_ne_true, he]

/-- Booted into `ACT_DEAD` with enough battery for `USER`. -/
def actdeadBootWithBattery (cfg : Config) : State :=
  step cfg (moduleInit cfg (some "ACT_DEAD".toList) false) (.setBatteryLevel 50)

/-- The boot-time shutdown request is forgotten: the block and its release move
the device out of `Actdead`, through `Reboot`.  Together they re-run the
policy with the shutdown request cleared (`step_block_allow`), and without it
the policy selects `User`. -/
theorem block_allow_leaves_actdead :
    (actdeadBootWithBattery (Config.plain false)).shutdownBlocked = false ∧
    selectState (Config.plain false) (actdeadBootWithBattery (Config.plain false)) =
      (actdeadBootWithBattery (Config.plain false)).currentState ∧
    (actdeadBootWithBattery (Config.plain false)).currentState = .actdead ∧
    (step (Config.plain false)
      (step (Config.plain false) (actdeadBootWithBattery (Config.plain false))
        (.blockShutdown .dsme)) (.allowShutdown .dsme)).currentState = .reboot := by
  have hb : (actdeadBootWithBattery (Config.plain false)).shutdownBlocked = false := by decide
  refine ⟨hb, by decide, by decide, ?_⟩
  rw [step_block_allow hb]
  decide

/-- **A powerup refused for low battery** sets `shutdown_requested`, clears
`actdead_requested` and changes nothing else.  Once the handler has cleared
the two bits, the policy picks `User`, and `try_to_change_state` refuses it in
`Actdead` below `DSME_MINIMUM_BATTERY_TO_USER`, restoring only
`shutdown_requested`. -/
theorem low_battery_powerup_sets_shutdown_request (hc : s.currentState = .actdead)
    (hb : s.dsmeBatteryLevel < dsmeMinimumBatteryToUser) (conn : Endpoint)
    (hp : conn.privileged = true)
    (hu : selectState cfg ((s.setShutdownRequested false).setActdeadRequested false) = .user) :
    step cfg s (.powerupReq conn) = (s.setShutdownRequested true).setActdeadRequested false ∧
    ∀ r, stateValue r = .user →
      step cfg s (.telinit conn (some r)) =
        (s.setShutdownRequested true).setActdeadRequested false := by
  have refused : handleTelinitUser cfg conn s =
      (s.setShutdownRequested true).setActdeadRequested false := by
    have hc' : ((s.setShutdownRequested false).setActdeadRequested false).currentState = .actdead :=
      hc
    simp only [handleTelinitUser, hp, if_true, changeStateIfNecessary, hu, hc', tryToChangeState,
      if_neg (by decide : DsmeState.actdead ≠ .notSet),
      if_pos (show ((s.setShutdownRequested false).setActdeadRequested false).dsmeBatteryLevel <
        dsmeMinimumBatteryToUser from hb)]
    rfl
  exact ⟨refused, fun r hr => by simp only [step, hr, telinitHandler]; exact refused⟩

/-- Booted into `ACT_DEAD`, then asked for `ACTDEAD` by telinit: still `Actdead`,
now also by request, with the battery level unknown. -/
def actdeadByRequest (cfg : Config) : State :=
  step cfg (moduleInit cfg (some "ACT_DEAD".toList) false) (.telinit .root (some "ACTDEAD".toList))

theorem low_battery_powerup_sets_shutdown_request_by_request :
    (actdeadByRequest (Config.plain false)).currentState = .actdead ∧
    (actdeadByRequest (Config.plain false)).dsmeBatteryLevel < dsmeMinimumBatteryToUser ∧
    Endpoint.root.privileged = true ∧
    selectState (Config.plain false) (((actdeadByRequest (Config.plain false)).setShutdownRequested
      false).setActdeadRequested false) = .user ∧
    (step (Config.plain false) (actdeadByRequest (Config.plain false)) (.powerupReq .root) =
      ((actdeadByRequest (Config.plain false)).setShutdownRequested true).setActdeadRequested
        false ∧
    ∀ r, stateValue r = .user →
      step (Config.plain false) (actdeadByRequest (Config.plain false)) (.telinit .root (some r)) =
        ((actdeadByRequest (Config.plain false)).setShutdownRequested true).setActdeadRequested
          false) :=
  ⟨by decide, by decide, rfl, by decide,
    low_battery_powerup_sets_shutdown_request (by decide) (by decide) .root rfl (by decide)⟩

/-- The refused powerup drops the `ACTDEAD` request: the requests are not the
ones the state had.  The run is the same with `DSME_SUPPORT_DIRECT_USER_ACTDEAD`. -/
theorem low_battery_powerup_drops_actdead_request :
    (actdeadByRequest (Config.plain false)).currentState = .actdead ∧
    (actdeadByRequest (Config.plain false)).dsmeBatteryLevel = dsmeBatteryLevelUnknown ∧
    (actdeadByRequest (Config.plain false)).actdeadRequested = true ∧
    (step (Config.plain false) (actdeadByRequest (Config.plain false))
      (.powerupReq .root)).currentState = .actdead ∧
    (step (Config.plain false) (actdeadByRequest (Config.plain false))
      (.powerupReq .root)).actdeadRequested = false := by
  decide

end Dsme

/-
# The six timers in every reachable state

Read off the engine invariant (`Reachable.inv`): the handle variables and the
timer service agree (`Hygienic`), and the three delay timers agree with the
announced state, so every runlevel message carries the table's runlevel of
the state announced before it (`DelayAgreement`, `Announced`).

A delay timer's callback only sends its runlevel message: it does not re-run
the policy (`timerExpired_delay_keeps_policy`).  A target the policy selected
while the timer was pending, and that `try_to_change_state` refused because
the timer was armed, is then left pending.
-/

import Dsme.Emergency

namespace Dsme

variable {s : State} {cfg : Config}

/-- **Timer-handle hygiene**: a handle variable is non-zero exactly when it
holds a live timer created for it, no `dsme_destroy_timer` ever met a handle
that was not live (the flag is never cleared), and the service only fires a
timer whose own variable holds its handle. -/
theorem timer_handles_are_hygienic (h : Reachable cfg s) :
    (∀ k, s.handle k ≠ 0 ↔ ∃ sec, s.timers.live (s.handle k) = some ⟨sec, k⟩) ∧
    s.timers.strayDestroy = false ∧
    ∀ x sch, s.timers.live x = some sch → s.handle sch.callback = x :=
  have hy := h.inv.hyg
  ⟨fun k => ⟨hy.held k, fun ⟨_, hs⟩ => hy.ne_zero_of_live hs⟩, hy.noStray, hy.owned⟩

/-- An overheat report and an empty battery: two input timers armed. -/
def alarmsArmed : State :=
  bootRun (Config.plain false) [.setThermalStatus .overheated, .setBatteryState true]

theorem timer_handles_are_hygienic_after_alarms :
    alarmsArmed.handle .overheat ≠ 0 ∧ alarmsArmed.handle .batteryEmpty ≠ 0 ∧
    (∀ k, alarmsArmed.handle k ≠ 0 ↔
      ∃ sec, alarmsArmed.timers.live (alarmsArmed.handle k) = some ⟨sec, k⟩) ∧
    alarmsArmed.timers.strayDestroy = false ∧
    ∀ x sch, alarmsArmed.timers.live x = some sch → alarmsArmed.handle sch.callback = x :=
  have hr : Reachable (Config.plain false) alarmsArmed := (Reachable.init none false).run _
  ⟨by decide, by decide, timer_handles_are_hygienic hr⟩

/-- **The delay timers agree with the announced state**: at most one is armed,
each for its state, and every `SHUTDOWN` and `CHANGE_RUNLEVEL` message sent
carries the table's runlevel of the state announced last before it. -/
theorem delay_timers_agree_with_announced_state (h : Reachable cfg s) :
    (s.handle .delayedShutdown ≠ 0 →
      (s.currentState = .shutdown ∨ s.currentState = .reboot) ∧
        s.handle .delayedActdead = 0 ∧ s.handle .delayedUser = 0) ∧
    (s.handle .delayedActdead ≠ 0 → s.currentState = .actdead ∧ s.handle .delayedUser = 0) ∧
    (s.handle .delayedUser ≠ 0 → s.currentState = .user) ∧
    ∀ pre o post r, s.outbox = pre ++ o :: post → o.runlevel? = some r →
      ∃ x, lastAnnounced pre = some x ∧ specRunlevel x = some r := by
  have hi := h.inv
  refine ⟨hi.delay.shutdown, fun ha => ⟨hi.delay.actdead ha, ?_⟩, hi.delay.user,
    fun _ _ _ _ hos hr => hi.announced.agree.at hos hr⟩
  by_contra hu
  exact absurd ((hi.delay.actdead ha).symm.trans (hi.delay.user hu)) (by decide)

/-- Default build: a shutdown carried out, then an alarm and a reboot request,
which arm the shutdown-delay timer again after a `SHUTDOWN` message. -/
def rebootPending : State :=
  bootRun (Config.plain false)
    [.setChargerState false, .shutdownReq .root, .timerExpired 1, .setAlarmState true,
      .rebootReq .root]

/-- Direct build: an `ACTDEAD` request carried out with `CHANGE_RUNLEVEL`, then
a powerup, which arms the user-delay timer. -/
def userDelayPending : State :=
  bootRun (Config.plain true)
    [.setBatteryLevel 50, .telinit .root (some "ACTDEAD".toList), .timerExpired 1,
      .powerupReq .root]

theorem delay_timers_agree_with_announced_state_when_armed :
    rebootPending.handle .delayedShutdown ≠ 0 ∧
    Out.broadcastInternally (.shutdown 0) ∈ rebootPending.outbox ∧
    (rebootPending.currentState = .shutdown ∨ rebootPending.currentState = .reboot) ∧
    rebootPending.handle .delayedActdead = 0 ∧ rebootPending.handle .delayedUser = 0 ∧
    (∀ pre o post r, rebootPending.outbox = pre ++ o :: post → o.runlevel? = some r →
      ∃ x, lastAnnounced pre = some x ∧ specRunlevel x = some r) ∧
    userDelayPending.handle .delayedUser ≠ 0 ∧
    Out.broadcastInternally (.changeRunlevel 4) ∈ userDelayPending.outbox ∧
    userDelayPending.currentState = .user ∧
    (∀ pre o post r, userDelayPending.outbox = pre ++ o :: post → o.runlevel? = some r →
      ∃ x, lastAnnounced pre = some x ∧ specRunlevel x = some r) := by
  have hd := delay_timers_agree_with_announced_state
    ((Reachable.init none false).run _ : Reachable (Config.plain false) rebootPending)
  have hu := delay_timers_agree_with_announced_state
    ((Reachable.init none false).run _ : Reachable (Config.plain true) userDelayPending)
  have hs : rebootPending.handle .delayedShutdown ≠ 0 := by decide
  have hus : userDelayPending.handle .delayedUser ≠ 0 := by decide
  exact ⟨hs, by decide, (hd.1 hs).1, (hd.1 hs).2.1, (hd.1 hs).2.2, hd.2.2.2, hus, by decide,
    hu.2.2.1 hus, hu.2.2.2⟩

/-- **A delay timer's callback does not re-run the policy**: it keeps
`current_state` and every input `select_state` reads. -/
theorem timerExpired_delay_keeps_policy {x sec : Nat} {k : TimerKind}
    (hx : s.timers.live x = some ⟨sec, k⟩) (hk : k.IsDelay) :
    (timerExpired cfg x s).currentState = s.currentState ∧
      selectState cfg (timerExpired cfg x s) = selectState cfg s := by
  simp only [timerExpired, hx]
  rcases hk with rfl | rfl | rfl <;>
    simp only [timerCallback, delayedShutdownFn, delayedActdeadFn, delayedUserFn, delayedRunlevelFn,
      changeRunlevel, State.emit, State.setHandle, State.expireTimer, selectState_frame, and_self]

/-- `stop_charger_disconnect_timer` zeroes its handle variable, as `stopTimer` does. -/
theorem stopChargerDisconnectTimer_handle (s : State) :
    (stopChargerDisconnectTimer s).handle = (s.stopTimer .chargerDisconnect).handle := by
  unfold stopChargerDisconnectTimer
  split
  · next h => rw [State.stopTimer, ← h, Function.update_eq_self]
  · rfl

theorem Hygienic.stopChargerDisconnectTimer (h : Hygienic s) :
    Hygienic (stopChargerDisconnectTimer s) := by
  unfold Dsme.stopChargerDisconnectTimer
  split
  · exact h
  · exact (h.stopTimer _).congr rfl rfl

theorem Hygienic.moduleFini (h : Hygienic s) : Hygienic (moduleFini s) :=
  ((((h.stopTimer _).stopTimer _).stopTimer _).stopChargerDisconnectTimer.stopTimer _).stopTimer _

@[simp] theorem moduleFini_handle (s : State) (k : TimerKind) : (moduleFini s).handle k = 0 := by
  cases k <;> simp [moduleFini, stopDelayedRunlevelTimers, stopChargerDisconnectTimer_handle,
    stopOverheatTimer, stopBatteryEmptyTimer, State.stopTimer, Function.update_apply]

/-- **Unloading the module leaves no timer behind**: from every reachable
state, `module_fini` zeroes the six handle variables, leaves the timer
service with no live timer and never destroys a handle that is not live. -/
theorem moduleFini_leaves_no_timer (h : Reachable cfg s) :
    (∀ k, (moduleFini s).handle k = 0) ∧ (∀ x, (moduleFini s).timers.live x = none) ∧
      (moduleFini s).timers.strayDestroy = false := by
  have hy := h.inv.hyg.moduleFini
  refine ⟨moduleFini_handle s, fun x => ?_, hy.noStray⟩
  cases hx : (moduleFini s).timers.live x with
  | none => rfl
  | some sch =>
    exact absurd ((hy.owned x sch hx).symm.trans (moduleFini_handle s _)) (hy.ne_zero_of_live hx)

/-- Unloading after an overheat report and an empty battery, which arm two timers. -/
theorem moduleFini_leaves_no_timer_after_alarms :
    (∀ k, (moduleFini (bootRun (Config.plain false)
      [.setThermalStatus .overheated, .setBatteryState true])).handle k = 0) ∧
    (∀ x, (moduleFini (bootRun (Config.plain false)
      [.setThermalStatus .overheated, .setBatteryState true])).timers.live x = none) ∧
    (moduleFini (bootRun (Config.plain false)
      [.setThermalStatus .overheated, .setBatteryState true])).timers.strayDestroy = false :=
  moduleFini_leaves_no_timer ((Reachable.init none false).run _)

/-- Direct mode: a powerup while the actdead-delay timer of a finished
`ACTDEAD` request is still pending, then that timer fires. -/
def powerupDuringActdeadDelay : List Event :=
  [.setBatteryLevel 50, .telinit .root (some "ACTDEAD".toList), .powerupReq .root,
    .timerExpired 1]

/-- The powerup is left pending: the step ends in `Actdead` while the policy
selects `User`, and running `change_state_if_necessary` once more moves to it.
The powerup was pending before the timer fired, and the timer's callback
re-runs no policy (`timerExpired_delay_keeps_policy`). -/
theorem powerup_pending_after_actdead_delay :
    (bootRun (Config.plain true) powerupDuringActdeadDelay).currentState = .actdead ∧
    selectState (Config.plain true) (bootRun (Config.plain true) powerupDuringActdeadDelay) =
      .user ∧
    (changeStateIfNecessary (Config.plain true)
      (bootRun (Config.plain true) powerupDuringActdeadDelay)).currentState = .user := by
  have hx : (bootRun (Config.plain true) (powerupDuringActdeadDelay.take 3)).timers.live 1 =
      some ⟨actdeadTimerMaxTimeout, .delayedActdead⟩ := by decide
  have hfire : bootRun (Config.plain true) powerupDuringActdeadDelay =
      timerExpired (Config.plain true) 1
        (bootRun (Config.plain true) (powerupDuringActdeadDelay.take 3)) :=
    bootRun_concat _ (powerupDuringActdeadDelay.take 3) (.timerExpired 1)
  have hkeep : (timerExpired (Config.plain true) 1
        (bootRun (Config.plain true) (powerupDuringActdeadDelay.take 3))).currentState =
        (bootRun (Config.plain true) (powerupDuringActdeadDelay.take 3)).currentState ∧
      selectState (Config.plain true) (timerExpired (Config.plain true) 1
        (bootRun (Config.plain true) (powerupDuringActdeadDelay.take 3))) =
        selectState (Config.plain true)
          (bootRun (Config.plain true) (powerupDuringActdeadDelay.take 3)) :=
    timerExpired_delay_keeps_policy hx (.inr (.inl rfl))
  rw [hfire, hkeep.1, hkeep.2]
  decide

end Dsme

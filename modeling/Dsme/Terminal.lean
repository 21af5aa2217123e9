/-
# Latches and the way down

Read off `Progress.run` and the engine invariant: the thermal and
battery-empty latches never clear and, outside an emergency call, hold the
device in `Shutdown`; `Shutdown` and `Reboot` are never left, and once a
`SHUTDOWN` message was sent every further announcement names one of them.

They are not final between themselves: the policy can still flip between
`Shutdown` and `Reboot`, and the way down then announces the new state and
arms the shutdown-delay timer again, so a second `SHUTDOWN` message follows.
-/

import Dsme.Timers

namespace Dsme

variable {s : State} {cfg : Config}

/-- **The latches force `Shutdown`**: they never clear, and outside an
emergency call either of them means `current_state` is `Shutdown`. -/
theorem latches_force_shutdown (h : Reachable cfg s) :
    ((s.deviceOverheated || s.batteryEmpty) = true → s.emergencyCallOngoing = false →
      s.currentState = .shutdown) ∧
    ∀ es, (s.deviceOverheated = true → (run cfg s es).deviceOverheated = true) ∧
      (s.batteryEmpty = true → (run cfg s es).batteryEmpty = true) :=
  ⟨h.inv.latched, fun es => ⟨(Progress.run h es).overheated, (Progress.run h es).empty⟩⟩

/-- An overheat report whose grace period runs out: `device_overheated` latches. -/
def overheatLatched : State :=
  bootRun (Config.plain false) [.setThermalStatus .overheated, .timerExpired 1]

theorem latches_force_shutdown_after_overheat :
    overheatLatched.deviceOverheated = true ∧ overheatLatched.emergencyCallOngoing = false ∧
    overheatLatched.currentState = .shutdown ∧
    ∀ es, (run (Config.plain false) overheatLatched es).deviceOverheated = true :=
  have h := latches_force_shutdown
    ((Reachable.init none false).run _ : Reachable (Config.plain false) overheatLatched)
  ⟨by decide, by decide, h.1 (by decide) (by decide), fun es => (h.2 es).1 (by decide)⟩

/-- `set_initial_state_bits` sends at most `ENTER_MALF`. -/
theorem setInitialStateBits_no_shutdown (rdMode : Bool) (b : List Char) (s : State)
    (hs : ∀ o ∈ s.outbox, o.isShutdown = false) :
    ∀ o ∈ (setInitialStateBits rdMode b s).outbox, o.isShutdown = false := by
  have h₀ := (sameCore_initialStateBits b s).outbox
  unfold setInitialStateBits
  generalize initialStateBits b s = r at h₀
  obtain ⟨s₁, p, m⟩ := r
  dsimp only at h₀ ⊢
  split
  · intro o ho
    rcases List.mem_append.1 ho with ho | ho
    · exact hs o (h₀ ▸ ho)
    · rw [List.mem_singleton.1 ho]; rfl
  · exact h₀ ▸ hs

/-- A `SHUTDOWN` message is only ever sent from `Shutdown` or `Reboot`, which
are never left. -/
theorem Reachable.down_of_shutdown_sent (h : Reachable cfg s) :
    ∀ o ∈ s.outbox, o.isShutdown → IsDown s.currentState := by
  induction h with
  | init b rd =>
    have hp : Progress (setInitialStateBits rd (b.getD "USER".toList) {}) (moduleInit cfg b rd) :=
      Progress.changeStateIfNecessary
    obtain ⟨new, e⟩ := hp.grows
    intro o ho hs
    rw [e] at ho
    rcases List.mem_append.1 ho with ho | ho
    · rw [setInitialStateBits_no_shutdown rd _ {} (fun _ h => nomatch h) o ho] at hs
      cases hs
    · exact hp.shutdownDown new e o ho hs
  | step e hr ih =>
    have hp : Progress _ (Dsme.step cfg _ e) := Progress.step hr.inv e
    obtain ⟨new, en⟩ := hp.grows
    intro o ho hs
    rw [en] at ho
    rcases List.mem_append.1 ho with ho | ho
    · exact hp.down (ih o ho hs)
    · exact hp.shutdownDown new en o ho hs

/-- **`Shutdown` and `Reboot` are never left**, and after a `SHUTDOWN`
message every further `STATE_CHANGE_IND` names one of them. -/
theorem shutdown_and_reboot_are_terminal (h : Reachable cfg s) (es : List Event) :
    (IsDown s.currentState → IsDown (run cfg s es).currentState) ∧
    ((∃ o ∈ s.outbox, o.isShutdown) → ∀ new, (run cfg s es).outbox = s.outbox ++ new →
      ∀ x, .broadcast (.stateChangeInd x) ∈ new → IsDown x) := by
  have hp := Progress.run h es
  refine ⟨hp.down, fun ⟨o, ho, hs⟩ new e x hx => ?_⟩
  exact hp.announcedDown new e x hx (h.down_of_shutdown_sent o ho hs)

/-- A shutdown carried out: `SHUTDOWN` sent from `Shutdown`. -/
def shutdownDone : State :=
  bootRun (Config.plain false) [.setChargerState false, .shutdownReq .root, .timerExpired 1]

/-- After the `SHUTDOWN`, an alarm and a reboot request move the device to
`Reboot`, which is still one of the two. -/
theorem shutdown_and_reboot_are_terminal_after_shutdown :
    IsDown shutdownDone.currentState ∧ (∃ o ∈ shutdownDone.outbox, o.isShutdown) ∧
    IsDown (run (Config.plain false) shutdownDone
      [.setAlarmState true, .rebootReq .root, .timerExpired 2]).currentState ∧
    ∀ new, (run (Config.plain false) shutdownDone
        [.setAlarmState true, .rebootReq .root, .timerExpired 2]).outbox =
        shutdownDone.outbox ++ new →
      ∀ x, .broadcast (.stateChangeInd x) ∈ new → IsDown x :=
  have h := shutdown_and_reboot_are_terminal
    ((Reachable.init none false).run _ : Reachable (Config.plain false) shutdownDone)
    [.setAlarmState true, .rebootReq .root, .timerExpired 2]
  have hd : IsDown shutdownDone.currentState := by decide
  have hs : ∃ o ∈ shutdownDone.outbox, o.isShutdown := by decide
  ⟨hd, hs, h.1 hd, h.2 hs⟩

/-- A shutdown carried out, then an alarm and a reboot request: the policy
flips from `Shutdown` to `Reboot`. -/
def rebootAfterShutdown : List Event :=
  [.setChargerState false, .shutdownReq .root, .timerExpired 1, .setAlarmState true,
    .rebootReq .root, .timerExpired 2]

/-- After the first `SHUTDOWN` the module announces `Reboot` and sends a second
`SHUTDOWN`. -/
theorem second_shutdown_after_reboot_request :
    (bootRun (Config.plain false) rebootAfterShutdown).outbox =
      [.broadcast (.stateChangeInd .user), .broadcast .saveDataInd,
        .broadcast (.stateChangeInd .shutdown), .broadcastInternally (.shutdown 0),
        .broadcast .saveDataInd, .broadcast (.stateChangeInd .reboot),
        .broadcastInternally (.shutdown 6)] := by
  decide

end Dsme

/-
# Emergency calls

`select_state` hands back `current_state` while `emergency_call_ongoing` is
set (`selectState_of_emergency`), so `change_state_if_necessary` is then the
identity; together with `Frozen` (no delay timer is armed during a call) no
event but the end of the call can move the device: `Quiet`.

When the call ends, `update_emergency_call_ongoing` re-runs the policy, which
re-arms nothing if it still selects `current_state`
(`step_setEmergencyCallState_false`).  A shutdown announced just before the
call began is then never carried out: its timer was stopped when the call
began.
-/

import Dsme.Progress

namespace Dsme

variable {s : State} {cfg : Config}

/-- During an emergency call `change_state_if_necessary` does nothing. -/
theorem changeStateIfNecessary_of_emergency (h : s.emergencyCallOngoing = true) :
    changeStateIfNecessary cfg s = s := by
  simp [changeStateIfNecessary, selectState_of_emergency h]

/-- From `s` to `s'` nothing moved: `current_state` and the emergency bit are
kept, and no message that moves the device was sent. -/
structure Quiet (s s' : State) : Prop where
  currentState : s'.currentState = s.currentState
  emergency : s'.emergencyCallOngoing = s.emergencyCallOngoing
  sent : ∃ new, s'.outbox = s.outbox ++ new ∧ ∀ o ∈ new, ¬o.IsTransition

namespace Quiet

variable {s' : State}

theorem refl (s : State) : Quiet s s := ⟨rfl, rfl, [], by simp, by simp⟩

theorem trans {s₁ s₂ s₃ : State} (h₁ : Quiet s₁ s₂) (h₂ : Quiet s₂ s₃) : Quiet s₁ s₃ := by
  obtain ⟨n₁, e₁, q₁⟩ := h₁.sent
  obtain ⟨n₂, e₂, q₂⟩ := h₂.sent
  have e : s₃.outbox = s₁.outbox ++ (n₁ ++ n₂) := by rw [e₂, e₁, List.append_assoc]
  exact ⟨h₂.currentState.trans h₁.currentState, h₂.emergency.trans h₁.emergency, n₁ ++ n₂, e,
    fun o ho => (List.mem_append.1 ho).elim (q₁ o) (q₂ o)⟩

/-- An operation that sends nothing. -/
theorem of_frame (hc : s'.currentState = s.currentState) (he : s'.emergencyCallOngoing = s.emergencyCallOngoing)
    (ho : s'.outbox = s.outbox) : Quiet s s' :=
  ⟨hc, he, [], by simp [ho], by simp⟩

theorem emit {o : Out} (ho : ¬o.IsTransition) : Quiet s (s.emit o) :=
  ⟨rfl, rfl, [o], rfl, fun _ h => List.mem_singleton.1 h ▸ ho⟩

/-- The assignments of the request handlers and the input callbacks. -/
theorem of_sameCore (h : SameCore s s') : Quiet s s' :=
  .of_frame h.currentState h.emergency h.outbox

/-- **Under an emergency call an input timer does not move the device**, also
when its creation fails and the callback runs at once. -/
theorem startInputTimer {k : TimerKind} {set : State → State} (hset : ∀ s, SameCore s (set s))
    (he : s.emergencyCallOngoing = true) (sec : Nat) :
    Quiet s (startInputTimer k set cfg sec s) := by
  unfold Dsme.startInputTimer
  split
  · dsimp only
    have hc : Quiet s (s.createTimer cfg k sec) := .of_frame rfl rfl rfl
    split
    · have hq := hc.trans (of_sameCore (hset _))
      rw [delayedInputFn, changeStateIfNecessary_of_emergency (hq.emergency.trans he)]
      exact hq.trans (.of_frame rfl rfl rfl)
    · exact hc
  · exact refl s

section Call

variable (he : s.emergencyCallOngoing = true)
include he

/-- The policy, after assignments it does not read the emergency bit through. -/
theorem changeStateIfNecessary {s' : State} (hs : SameCore s s') :
    Quiet s (changeStateIfNecessary cfg s') := by
  rw [changeStateIfNecessary_of_emergency (hs.emergency.trans he)]
  exact of_sameCore hs

theorem telinitHandler (st : DsmeState) (conn : Endpoint) :
    Quiet s (telinitHandler cfg st conn s) := by
  have gated : ∀ {requested : DsmeState} {update : State → State},
      (∀ s, SameCore s (update s)) → Quiet s (handleTelinitRequest requested update cfg conn s) :=
    fun hu => by
      rw [handleTelinitRequest_eq]
      split
      · split
        · exact emit (fun h => nomatch h)
        · exact changeStateIfNecessary he (hu s)
      · exact refl s
  cases st with
  | shutdown | actdead | reboot =>
    simp only [Dsme.telinitHandler, handleTelinitShutdown, handleTelinitActdead, handleTelinitReboot]
    exact gated fun _ => ⟨rfl, rfl, rfl, rfl, rfl⟩
  | user =>
    simp only [Dsme.telinitHandler, handleTelinitUser]
    split
    · exact changeStateIfNecessary he ⟨rfl, rfl, rfl, rfl, rfl⟩
    · exact refl s
  | notSet | test | malf | boot | «local» => exact refl s

theorem handleSetChargerState (connected : Bool) :
    Quiet s (handleSetChargerState cfg connected s) := by
  have h₁ : Quiet s (stopChargerDisconnectTimer s) := by
    unfold stopChargerDisconnectTimer; split
    · exact refl s
    · exact .of_frame rfl rfl rfl
  have he₁ := h₁.emergency.trans he
  unfold Dsme.handleSetChargerState
  dsimp only
  generalize (if connected then ChargerState.connected else .disconnected) = new
  split
  · split <;> exact h₁.trans (startInputTimer (fun _ => sameCore_setChargerState _) he₁ _)
  · exact h₁.trans (changeStateIfNecessary he₁ ⟨rfl, rfl, rfl, rfl, rfl⟩)

theorem updateShutdownBlocked (v : Bool) : Quiet s (s.updateShutdownBlocked cfg v) := by
  unfold State.updateShutdownBlocked
  split
  · exact refl s
  split
  · exact .of_frame rfl rfl rfl
  · exact changeStateIfNecessary he ⟨rfl, rfl, rfl, rfl, rfl⟩

/-- No delay timer is armed during a call, so none fires at once. -/
theorem runlevelSwitchInd (hf : Frozen s) (r : Int) : Quiet s (runlevelSwitchInd r s) := by
  obtain ⟨-, hz₂, hz₃⟩ := hf he
  unfold Dsme.runlevelSwitchInd
  split
  · dsimp only
    rw [if_pos (show (s.setActdeadSwitchDone true).handle .delayedUser = 0 from hz₃)]
    exact .of_frame rfl rfl rfl
  split
  · dsimp only
    rw [if_pos (show (s.setUserSwitchDone true).handle .delayedActdead = 0 from hz₂)]
    exact .of_frame rfl rfl rfl
  · exact refl s

/-- Only input timers are live during a call; their callbacks move nothing. -/
theorem timerExpired (h : Inv s) (x : Nat) : Quiet s (timerExpired cfg x s) := by
  obtain ⟨hz₁, hz₂, hz₃⟩ := h.frozen he
  unfold Dsme.timerExpired
  split
  · exact refl s
  · rename_i sch hx
    have h0 : s.handle sch.callback ≠ 0 :=
      (h.hyg.owned x sch hx).symm ▸ h.hyg.ne_zero_of_live hx
    have fire : ∀ {k : TimerKind} {set : State → State}, (∀ s, SameCore s (set s)) →
        Quiet s ((delayedInputFn k set cfg s).expireTimer x) := fun {k set} hset =>
      (changeStateIfNecessary he (hset s) : Quiet s (Dsme.changeStateIfNecessary cfg (set s))).trans
        (.of_frame (by simp [delayedInputFn]) (by simp [delayedInputFn]) (by simp [delayedInputFn]))
    cases e : sch.callback <;> rw [e] at h0 <;> simp only [timerCallback]
    · exact fire fun _ => sameCore_setDeviceOverheated _
    · exact fire fun _ => sameCore_setChargerState _
    · exact fire fun _ => sameCore_setBatteryEmpty _
    · exact absurd hz₁ h0
    · exact absurd hz₂ h0
    · exact absurd hz₃ h0

/-- **During an emergency call every event but its end is quiet.** -/
theorem step (h : Inv s) (e : Event) (hne : e ≠ .setEmergencyCallState false) :
    Quiet s (step cfg s e) := by
  cases e with
  | telinit conn r =>
    cases r with
    | none => exact refl s
    | some r => exact telinitHandler he _ conn
  | shutdownReq conn => exact telinitHandler he .shutdown conn
  | rebootReq conn => exact telinitHandler he .reboot conn
  | powerupReq conn => exact telinitHandler he .user conn
  | stateQuery => exact emit (fun h => nomatch h)
  | setAlarmState v => exact changeStateIfNecessary he ⟨rfl, rfl, rfl, rfl, rfl⟩
  | setUsbState v | setBatteryLevel v => exact .of_frame rfl rfl rfl
  | setChargerState c => exact handleSetChargerState he c
  | setThermalStatus st =>
    simp only [Dsme.step]
    split
    · exact startInputTimer (fun _ => sameCore_setDeviceOverheated _) he _
    · exact refl s
  | setEmergencyCallState v =>
    obtain rfl : v = true := by cases v; exact absurd rfl hne; rfl
    simp only [Dsme.step, State.updateEmergencyCallOngoing, he, if_true]
    rw [changeStateIfNecessary_of_emergency he]
    exact refl s
  | setBatteryState empty =>
    simp only [Dsme.step]
    split
    · exact (emit (o := .broadcast .batteryEmptyInd) (fun h => nomatch h)).trans
        (startInputTimer (s := s.emit (.broadcast .batteryEmptyInd))
          (fun _ => sameCore_setBatteryEmpty _) he _)
    · exact .of_frame rfl rfl rfl
  | dbusConnected | dbusDisconnect => exact refl s
  | blockShutdown conn | allowShutdown conn =>
    simp only [Dsme.step]
    split
    · exact updateShutdownBlocked he _
    · exact refl s
  | runlevelSwitchDone r => exact runlevelSwitchInd he h.frozen r
  | timerExpired x => exact timerExpired he h x

end Call

end Quiet

/-- **Emergency calls freeze the engine**: no delay timer is armed during a
call, and every event but the end of the call keeps `current_state` and
sends none of `SAVE_DATA_IND`, `STATE_CHANGE_IND`, `SHUTDOWN`, `CHANGE_RUNLEVEL`. -/
theorem emergency_call_freezes_engine (h : Reachable cfg s) (he : s.emergencyCallOngoing = true) :
    (s.handle .delayedShutdown = 0 ∧ s.handle .delayedActdead = 0 ∧
      s.handle .delayedUser = 0) ∧
    ∀ e, e ≠ .setEmergencyCallState false →
      (step cfg s e).currentState = s.currentState ∧
      ∃ new, (step cfg s e).outbox = s.outbox ++ new ∧ ∀ o ∈ new, ¬o.IsTransition :=
  ⟨h.inv.frozen he, fun e hne =>
    have hq := Quiet.step he h.inv e hne
    ⟨hq.currentState, hq.sent⟩⟩

theorem emergency_call_freezes_engine_after_call_starts :
    (bootRun (Config.plain false) [.setEmergencyCallState true]).emergencyCallOngoing = true ∧
    (((bootRun (Config.plain false) [.setEmergencyCallState true]).handle .delayedShutdown = 0 ∧
      (bootRun (Config.plain false) [.setEmergencyCallState true]).handle .delayedActdead = 0 ∧
      (bootRun (Config.plain false) [.setEmergencyCallState true]).handle .delayedUser = 0) ∧
    ∀ e, e ≠ .setEmergencyCallState false →
      (step (Config.plain false) (bootRun (Config.plain false) [.setEmergencyCallState true])
        e).currentState =
        (bootRun (Config.plain false) [.setEmergencyCallState true]).currentState ∧
      ∃ new, (step (Config.plain false) (bootRun (Config.plain false) [.setEmergencyCallState true])
          e).outbox =
        (bootRun (Config.plain false) [.setEmergencyCallState true]).outbox ++ new ∧
        ∀ o ∈ new, ¬o.IsTransition) :=
  ⟨by decide, emergency_call_freezes_engine ((Reachable.init none false).run _) (by decide)⟩

/-- **The end of a call re-arms nothing the policy does not select anew**: if
the policy still selects `current_state`, the end of the call only clears
the emergency bit. -/
theorem step_setEmergencyCallState_false (he : s.emergencyCallOngoing = true)
    (hsel : selectState cfg (s.setEmergencyCallOngoing false) = s.currentState) :
    step cfg s (.setEmergencyCallState false) = s.setEmergencyCallOngoing false := by
  have hs : changeStateIfNecessary cfg (s.setEmergencyCallOngoing false) =
      s.setEmergencyCallOngoing false := if_pos hsel.symm
  simp [Dsme.step, State.updateEmergencyCallOngoing, he, hs]

/-- A shutdown requested with the charger disconnected, then an emergency call
that begins before the shutdown-delay timer fires and ends at once. -/
def shutdownInterruptedByCall : List Event :=
  [.setChargerState false, .shutdownReq .root, .setEmergencyCallState true,
    .setEmergencyCallState false]

/-- The shutdown announced last is never carried out: after the call no
`SHUTDOWN` was sent and the shutdown-delay timer is idle.  The start of the
call stopped the timer, and its end only clears the emergency bit
(`step_setEmergencyCallState_false`): the policy still selects `Shutdown`,
which is `current_state`. -/
theorem shutdown_lost_after_emergency_call :
    (bootRun (Config.plain false) shutdownInterruptedByCall).emergencyCallOngoing = false ∧
    lastAnnounced (bootRun (Config.plain false) shutdownInterruptedByCall).outbox =
      some .shutdown ∧
    (∀ o ∈ (bootRun (Config.plain false) shutdownInterruptedByCall).outbox,
      o.isShutdown = false) ∧
    (bootRun (Config.plain false) shutdownInterruptedByCall).handle .delayedShutdown = 0 := by
  have hend : bootRun (Config.plain false) shutdownInterruptedByCall =
      step (Config.plain false) (bootRun (Config.plain false) (shutdownInterruptedByCall.take 3))
        (.setEmergencyCallState false) :=
    bootRun_concat _ (shutdownInterruptedByCall.take 3) (.setEmergencyCallState false)
  rw [hend, step_setEmergencyCallState_false]
  all_goals decide

end Dsme

/-
# The battery-empty warning comes first

`DSM_MSGTYPE_SET_BATTERY_STATE` with `empty` set broadcasts
`DSM_MSGTYPE_BATTERY_EMPTY_IND` before it starts the battery-empty timer
(`src/modules/state.c`, lines 1192-1210 and 1165-1183): "we have to shut
down; first send the notification".  Only that timer's callback,
`delayed_battery_empty_fn` (lines 1148-1155), sets `battery_empty`, and the
latch then holds the device in `Shutdown` (`latches_force_shutdown`).

`BatteryAlarm` says the latch is set or the timer is armed.  `NoNewAlarm s s'`
says that from `s` to `s'` no alarm was raised.  Every operation but that
message satisfies it.  The timer's own callback satisfies it too, because
hygiene ties a live timer to its armed variable.  So in every reachable state
an alarm was announced before it was raised
(`Reachable.battery_empty_announced_first`).
-/

import Dsme.Progress

namespace Dsme

/-- `battery_empty` is set or the battery-empty timer is armed. -/
def BatteryAlarm (s : State) : Prop := s.batteryEmpty = true ∨ s.handle .batteryEmpty ≠ 0

/-- No battery alarm is raised from `s` to `s'`. -/
def NoNewAlarm (s s' : State) : Prop := BatteryAlarm s' → BatteryAlarm s

theorem initialStateBits_batteryEmpty (b : List Char) (s : State) :
    (initialStateBits b s).1.batteryEmpty = s.batteryEmpty := by
  unfold initialStateBits
  repeat' split
  all_goals rfl

namespace NoNewAlarm

variable {s s' : State} {cfg : Config}

theorem refl (s : State) : NoNewAlarm s s := id

theorem trans {s₁ s₂ s₃ : State} (h₁ : NoNewAlarm s₁ s₂) (h₂ : NoNewAlarm s₂ s₃) :
    NoNewAlarm s₁ s₃ := h₁ ∘ h₂

/-- Keeps the latch, and arms the battery-empty timer only if it was armed. -/
theorem intro (hb : s'.batteryEmpty = s.batteryEmpty)
    (hh : s'.handle .batteryEmpty ≠ 0 → s.handle .batteryEmpty ≠ 0) : NoNewAlarm s s' :=
  fun h => h.imp (hb ▸ id) hh

theorem of_eq (hb : s'.batteryEmpty = s.batteryEmpty)
    (hh : s'.handle .batteryEmpty = s.handle .batteryEmpty) : NoNewAlarm s s' :=
  intro hb (hh ▸ id)

theorem setHandle_zero (k : TimerKind) : NoNewAlarm s (s.setHandle k 0) :=
  intro rfl fun h => by
    simp only [State.setHandle, Function.update_apply] at h
    split at h
    · exact absurd rfl h
    · exact h

theorem stopTimer (k : TimerKind) : NoNewAlarm s (s.stopTimer k) := setHandle_zero (s := s) k

theorem createTimer {k : TimerKind} (hk : k ≠ .batteryEmpty) (sec : Nat) :
    NoNewAlarm s (s.createTimer cfg k sec) :=
  of_eq rfl (by simp only [State.createTimer_handle, Function.update_noteq hk.symm])

/-- The transition controller reads the latch and never touches an input timer. -/
theorem changeStateIfNecessary : NoNewAlarm s (changeStateIfNecessary cfg s) :=
  have hk : Keeps s (Dsme.changeStateIfNecessary cfg s) := changeStateIfNecessary_keeps
  of_eq hk.empty (hk.inputTimer _ not_isDelay_batteryEmpty)

theorem policyAfter (hb : s'.batteryEmpty = s.batteryEmpty) (hh : s'.handle = s.handle) :
    NoNewAlarm s (Dsme.changeStateIfNecessary cfg s') :=
  (of_eq hb (by rw [hh])).trans changeStateIfNecessary

theorem setDeviceOverheated : NoNewAlarm s (s.setDeviceOverheated true) := of_eq rfl rfl

theorem setChargerState (v : ChargerState) : NoNewAlarm s (s.setChargerState v) := of_eq rfl rfl

section InputTimer

variable {k : TimerKind} {set : State → State} (hset : ∀ s, NoNewAlarm s (set s))
include hset

theorem delayedInputFn : NoNewAlarm s (delayedInputFn k set cfg s) :=
  ((hset s).trans changeStateIfNecessary).trans (setHandle_zero k)

theorem startInputTimer (hk : k ≠ .batteryEmpty) (sec : Nat) :
    NoNewAlarm s (startInputTimer k set cfg sec s) := by
  unfold Dsme.startInputTimer
  split
  · dsimp only
    split
    · exact (createTimer hk sec).trans (delayedInputFn hset)
    · exact createTimer hk sec
  · exact refl s

end InputTimer

theorem handleSetChargerState (connected : Bool) :
    NoNewAlarm s (handleSetChargerState cfg connected s) := by
  have h₁ : NoNewAlarm s (stopChargerDisconnectTimer s) := by
    unfold stopChargerDisconnectTimer
    split
    · exact refl s
    · exact (stopTimer _).trans (setChargerState _)
  unfold Dsme.handleSetChargerState
  dsimp only
  generalize (if connected then ChargerState.connected else .disconnected) = new
  split
  · split <;> exact h₁.trans (startInputTimer (fun _ => setChargerState _) (by decide) _)
  · exact h₁.trans (policyAfter rfl rfl)

theorem telinitHandler (st : DsmeState) (conn : Endpoint) :
    NoNewAlarm s (telinitHandler cfg st conn s) := by
  have gated : ∀ {requested : DsmeState} {update : State → State},
      (∀ s, (update s).batteryEmpty = s.batteryEmpty ∧ (update s).handle = s.handle) →
        NoNewAlarm s (handleTelinitRequest requested update cfg conn s) := fun hu => by
    rw [handleTelinitRequest_eq]
    split
    · split
      · exact of_eq rfl rfl
      · exact policyAfter (hu s).1 (hu s).2
    · exact refl s
  cases st with
  | shutdown | actdead | reboot =>
    simp only [Dsme.telinitHandler, handleTelinitShutdown, handleTelinitActdead,
      handleTelinitReboot]
    exact gated fun _ => ⟨rfl, rfl⟩
  | user =>
    simp only [Dsme.telinitHandler, handleTelinitUser]
    split
    · exact policyAfter rfl rfl
    · exact refl s
  | notSet | test | malf | boot | «local» => exact refl s

theorem updateShutdownBlocked (v : Bool) : NoNewAlarm s (s.updateShutdownBlocked cfg v) := by
  unfold State.updateShutdownBlocked
  split
  · exact refl s
  split
  · exact of_eq rfl rfl
  · exact policyAfter rfl rfl

theorem updateEmergencyCallOngoing (v : Bool) :
    NoNewAlarm s (s.updateEmergencyCallOngoing cfg v) := by
  unfold State.updateEmergencyCallOngoing
  split
  · exact refl s
  split
  · exact (of_eq rfl rfl).trans ((stopTimer _).trans ((stopTimer _).trans (stopTimer _)))
  · exact policyAfter rfl rfl

theorem delayedRunlevelFn (k : TimerKind) (st : DsmeState) :
    NoNewAlarm s (delayedRunlevelFn k st s) :=
  (of_eq rfl rfl).trans (setHandle_zero k)

theorem runlevelSwitchInd (r : Int) : NoNewAlarm s (runlevelSwitchInd r s) := by
  unfold Dsme.runlevelSwitchInd
  split
  · dsimp only
    split
    · exact of_eq rfl rfl
    · exact (of_eq rfl rfl).trans (delayedRunlevelFn _ _)
  split
  · dsimp only
    split
    · exact of_eq rfl rfl
    · exact (of_eq rfl rfl).trans (delayedRunlevelFn _ _)
  · exact refl s

/-- The battery-empty timer only fires while it is armed; the other five
callbacks leave the latch and the timer alone. -/
theorem timerExpired (hy : Hygienic s) (x : Nat) : NoNewAlarm s (timerExpired cfg x s) := by
  unfold Dsme.timerExpired
  split
  · exact refl s
  · rename_i sch hx
    have harmed : s.handle sch.callback ≠ 0 := (hy.owned x sch hx) ▸ hy.ne_zero_of_live hx
    suffices NoNewAlarm s (timerCallback cfg sch.callback s) from this.trans (of_eq rfl rfl)
    cases hc : sch.callback with
    | overheat => exact delayedInputFn fun _ => setDeviceOverheated
    | chargerDisconnect => exact delayedInputFn fun _ => setChargerState _
    | batteryEmpty => exact fun _ => .inr (hc ▸ harmed)
    | delayedShutdown => exact (of_eq rfl rfl).trans (setHandle_zero _)
    | delayedActdead | delayedUser => exact delayedRunlevelFn _ _

/-- **No event raises a battery alarm but a battery-empty report.** -/
theorem step (hy : Hygienic s) {e : Event} (he : e ≠ .setBatteryState true) :
    NoNewAlarm s (step cfg s e) := by
  cases e with
  | telinit conn r =>
    cases r with
    | none => exact refl s
    | some r => exact telinitHandler _ conn
  | shutdownReq conn => exact telinitHandler .shutdown conn
  | rebootReq conn => exact telinitHandler .reboot conn
  | powerupReq conn => exact telinitHandler .user conn
  | stateQuery | setUsbState _ | setBatteryLevel _ => exact of_eq rfl rfl
  | setAlarmState v => exact policyAfter rfl rfl
  | setChargerState c => exact handleSetChargerState c
  | setThermalStatus st =>
    simp only [Dsme.step]
    split
    · exact startInputTimer (fun _ => setDeviceOverheated) (by decide) _
    · exact refl s
  | setEmergencyCallState v =>
    exact (updateEmergencyCallOngoing v).trans changeStateIfNecessary
  | setBatteryState empty =>
    cases empty with
    | true => exact absurd rfl he
    | false => exact stopTimer _
  | dbusConnected | dbusDisconnect => exact refl s
  | blockShutdown conn | allowShutdown conn =>
    simp only [Dsme.step]
    split
    · exact updateShutdownBlocked _
    · exact refl s
  | runlevelSwitchDone r => exact runlevelSwitchInd r
  | timerExpired x => exact timerExpired hy x

end NoNewAlarm

/-- `module_init` raises no alarm: the latch starts clear and the timer idle. -/
theorem moduleInit_no_alarm {cfg : Config} (b : Option (List Char)) (rdMode : Bool) :
    ¬BatteryAlarm (moduleInit cfg b rdMode) := by
  have hinit : NoNewAlarm {} (setInitialStateBits rdMode (b.getD "USER".toList) {}) := by
    have h₀ := sameCore_initialStateBits (b.getD "USER".toList) {}
    have hb := initialStateBits_batteryEmpty (b.getD "USER".toList) {}
    unfold setInitialStateBits
    generalize initialStateBits (b.getD "USER".toList) {} = r at h₀ hb
    obtain ⟨s₁, p, m⟩ := r
    dsimp only at h₀ hb ⊢
    have h₁ : NoNewAlarm {} s₁ := NoNewAlarm.of_eq hb (congrFun h₀.handle _)
    split
    · exact h₁.trans (NoNewAlarm.of_eq rfl rfl)
    · exact h₁
  intro h
  rcases hinit.trans NoNewAlarm.changeStateIfNecessary h with h | h
  · exact Bool.false_ne_true h
  · exact h rfl

/-- **A battery alarm is announced before it is raised.**  In every reachable
state, if `battery_empty` is set or the battery-empty timer is armed, the
module has already broadcast `DSM_MSGTYPE_BATTERY_EMPTY_IND`. -/
theorem Reachable.battery_empty_announced_first {cfg : Config} {s : State}
    (h : Reachable cfg s) :
    s.batteryEmpty = true ∨ s.handle .batteryEmpty ≠ 0 →
      Out.broadcast .batteryEmptyInd ∈ s.outbox := by
  induction h with
  | init b rd => exact fun ha => absurd ha (moduleInit_no_alarm b rd)
  | @step s e hr ih =>
    intro ha
    by_cases he : e = .setBatteryState true
    · subst he
      have hp : Progress (s.emit (.broadcast .batteryEmptyInd)) (Dsme.step cfg s (.setBatteryState true)) :=
        Progress.startInputTimer (fun _ => Progress.setBatteryEmpty) _
      obtain ⟨new, hn⟩ := hp.grows
      simp [hn]
    · obtain ⟨new, hn⟩ := (Progress.step hr.inv e).grows
      rw [hn]
      exact List.mem_append_left _ (ih (NoNewAlarm.step hr.inv.hyg he ha))

/-- A battery-empty report whose grace period runs out. -/
theorem battery_empty_announced_first_on_report :
    ((bootRun (Config.plain false) [.setBatteryState true, .timerExpired 1]).batteryEmpty = true ∨
      (bootRun (Config.plain false) [.setBatteryState true, .timerExpired 1]).handle
        .batteryEmpty ≠ 0) ∧
    Out.broadcast .batteryEmptyInd ∈
      (bootRun (Config.plain false) [.setBatteryState true, .timerExpired 1]).outbox :=
  ⟨by decide, Reachable.battery_empty_announced_first ((Reachable.init none false).run _)
    (by decide)⟩

end Dsme

/-
# The default build never changes the runlevel in place

Without `DSME_SUPPORT_DIRECT_USER_ACTDEAD`, `try_to_change_state` takes the
device between `User` and `Actdead` through `Reboot` or `Shutdown`
(lines 578-684 of `src/modules/state.c`), and `start_delayed_actdead_timer`
and `start_delayed_user_timer` are not compiled.  Their timers are never
armed.  `change_runlevel` (lines 827-832) is only called by the callbacks of
those timers and by `runlevel_switch_ind` when one of them is armed, so it
never runs: the init module only ever receives `SHUTDOWN`.

`DirectIdle` says the two timers are not armed.  `StaysIdle s s'` says that
an idle `s` leads to an idle `s'` with no `CHANGE_RUNLEVEL` in between.  In
the default build every operation keeps it.  The timer dispatch keeps it
because hygiene ties a live timer to its armed variable (`StaysIdle.step`).
-/

import Dsme.Reachable

namespace Dsme

/-- A `CHANGE_RUNLEVEL` message. -/
def Out.isChangeRunlevel : Out → Bool
  | .broadcastInternally (.changeRunlevel _) => true
  | _ => false

/-- Neither delay timer of the direct build is armed. -/
def DirectIdle (s : State) : Prop := s.handle .delayedActdead = 0 ∧ s.handle .delayedUser = 0

/-- From an idle state: idle again, with no `CHANGE_RUNLEVEL` sent in between. -/
def StaysIdle (s s' : State) : Prop :=
  DirectIdle s → DirectIdle s' ∧
    ∃ new, s'.outbox = s.outbox ++ new ∧ ∀ o ∈ new, o.isChangeRunlevel = false

theorem directIdle_update {f : TimerKind → Nat} (h : f .delayedActdead = 0 ∧ f .delayedUser = 0)
    (k : TimerKind) : (Function.update f k 0) .delayedActdead = 0 ∧
      (Function.update f k 0) .delayedUser = 0 := by
  simp only [Function.update_apply]
  constructor <;> split <;> simp [h.1, h.2]

namespace StaysIdle

variable {s s' : State} {cfg : Config}

theorem refl (s : State) : StaysIdle s s := fun h => ⟨h, [], by simp, by simp⟩

theorem trans {s₁ s₂ s₃ : State} (h₁ : StaysIdle s₁ s₂) (h₂ : StaysIdle s₂ s₃) :
    StaysIdle s₁ s₃ := fun h => by
  obtain ⟨i₂, n₁, e₁, q₁⟩ := h₁ h
  obtain ⟨i₃, n₂, e₂, q₂⟩ := h₂ i₂
  exact ⟨i₃, n₁ ++ n₂, by rw [e₂, e₁, List.append_assoc],
    fun o ho => (List.mem_append.1 ho).elim (q₁ o) (q₂ o)⟩

/-- Sends nothing and keeps the two timers idle. -/
theorem intro (ho : s'.outbox = s.outbox) (hi : DirectIdle s → DirectIdle s') : StaysIdle s s' :=
  fun h => ⟨hi h, [], by rw [ho, List.append_nil], by simp⟩

theorem of_frame (ho : s'.outbox = s.outbox) (hh : s'.handle = s.handle) : StaysIdle s s' :=
  intro ho fun h => by rwa [DirectIdle, hh]

theorem of_sameCore (h : SameCore s s') : StaysIdle s s' := of_frame h.outbox h.handle

theorem emit {o : Out} (ho : o.isChangeRunlevel = false) : StaysIdle s (s.emit o) :=
  fun h => ⟨h, [o], rfl, by simpa using ho⟩

theorem setHandle_zero (k : TimerKind) : StaysIdle s (s.setHandle k 0) :=
  intro rfl fun h => directIdle_update h k

theorem stopTimer (k : TimerKind) : StaysIdle s (s.stopTimer k) :=
  intro rfl fun h => directIdle_update h k

theorem createTimer {k : TimerKind} (hk : k ≠ .delayedActdead ∧ k ≠ .delayedUser) (sec : Nat) :
    StaysIdle s (s.createTimer cfg k sec) :=
  intro rfl fun h => by
    simp only [DirectIdle, State.createTimer_handle, Function.update_noteq hk.1.symm,
      Function.update_noteq hk.2.symm]
    exact h

theorem changeState (new : DsmeState) : StaysIdle s (changeState new s) :=
  fun h => ⟨h, announce new, rfl, by unfold announce; split <;> simp [Out.isChangeRunlevel]⟩

theorem startDelayedShutdownTimer (sec : Nat) : StaysIdle s (startDelayedShutdownTimer cfg sec s) := by
  unfold Dsme.startDelayedShutdownTimer
  split
  · refine intro (by simp [stopDelayedRunlevelTimers]) fun _ => ?_
    simp [DirectIdle, stopDelayedRunlevelTimers, Function.update_apply]
  · exact refl s

theorem changeStateAndShutdown (n : DsmeState) : StaysIdle s (changeStateAndShutdown cfg n s) :=
  (changeState n).trans (startDelayedShutdownTimer _)

section Default

variable (hd : cfg.direct = false)
include hd

/-- **In the default build `try_to_change_state` arms no delay timer of the
direct build and sends no `CHANGE_RUNLEVEL`.** -/
theorem tryToChangeState (new : DsmeState) : StaysIdle s (tryToChangeState cfg new s) := by
  have hr := tryToChangeState_result cfg new s
  generalize Dsme.tryToChangeState cfg new s = r at hr ⊢
  cases hr with
  | unchanged => exact refl s
  | lowBattery => exact of_frame rfl rfl
  | first _ => exact changeState new
  | down _ hb => exact (of_sameCore hb.toSameCore).trans (changeStateAndShutdown _)
  | delayed _ _ _ hdir => exact absurd (hd ▸ hdir) Bool.false_ne_true

theorem changeStateIfNecessary : StaysIdle s (changeStateIfNecessary cfg s) := by
  unfold Dsme.changeStateIfNecessary
  split
  · exact refl s
  · exact tryToChangeState hd _

/-- An assignment that sends nothing and keeps the handles, then the policy. -/
theorem policyAfter (ho : s'.outbox = s.outbox) (hh : s'.handle = s.handle) :
    StaysIdle s (Dsme.changeStateIfNecessary cfg s') :=
  (of_frame ho hh).trans (changeStateIfNecessary hd)

theorem startInputTimer {k : TimerKind} (hk : k ≠ .delayedActdead ∧ k ≠ .delayedUser)
    {set : State → State} (hset : ∀ s, SameCore s (set s)) (sec : Nat) :
    StaysIdle s (startInputTimer k set cfg sec s) := by
  unfold Dsme.startInputTimer delayedInputFn
  split
  · dsimp only
    split
    · exact (createTimer hk sec).trans ((policyAfter hd (hset _).outbox (hset _).handle).trans (setHandle_zero k))
    · exact createTimer hk sec
  · exact refl s

theorem handleSetChargerState (connected : Bool) :
    StaysIdle s (handleSetChargerState cfg connected s) := by
  have h₁ : StaysIdle s (stopChargerDisconnectTimer s) := by
    unfold stopChargerDisconnectTimer
    split
    · exact refl s
    · exact (stopTimer _).trans (of_frame rfl rfl)
  have hk : TimerKind.chargerDisconnect ≠ .delayedActdead ∧
      TimerKind.chargerDisconnect ≠ .delayedUser := by decide
  unfold Dsme.handleSetChargerState
  dsimp only
  generalize (if connected then ChargerState.connected else .disconnected) = new
  split
  · split <;> exact h₁.trans (startInputTimer hd hk (fun _ => sameCore_setChargerState _) _)
  · exact h₁.trans (policyAfter hd rfl rfl)

theorem telinitHandler (st : DsmeState) (conn : Endpoint) :
    StaysIdle s (telinitHandler cfg st conn s) := by
  have gated : ∀ {requested : DsmeState} {update : State → State},
      (∀ s, SameCore s (update s)) →
        StaysIdle s (handleTelinitRequest requested update cfg conn s) := fun hu => by
    rw [handleTelinitRequest_eq]
    split
    · split
      · exact emit (by rfl)
      · exact policyAfter hd (hu s).outbox (hu s).handle
    · exact refl s
  cases st with
  | shutdown | actdead | reboot =>
    simp only [Dsme.telinitHandler, handleTelinitShutdown, handleTelinitActdead,
      handleTelinitReboot]
    exact gated fun _ => ⟨rfl, rfl, rfl, rfl, rfl⟩
  | user =>
    simp only [Dsme.telinitHandler, handleTelinitUser]
    split
    · exact policyAfter hd rfl rfl
    · exact refl s
  | notSet | test | malf | boot | «local» => exact refl s

theorem updateShutdownBlocked (v : Bool) : StaysIdle s (s.updateShutdownBlocked cfg v) := by
  unfold State.updateShutdownBlocked
  split
  · exact refl s
  split
  · exact of_frame rfl rfl
  · exact policyAfter hd rfl rfl

theorem updateEmergencyCallOngoing (v : Bool) : StaysIdle s (s.updateEmergencyCallOngoing cfg v) := by
  unfold State.updateEmergencyCallOngoing
  split
  · exact refl s
  split
  · exact (of_frame rfl rfl).trans ((stopTimer _).trans ((stopTimer _).trans (stopTimer _)))
  · exact policyAfter hd rfl rfl

end Default

/-- With both timers idle, `runlevel_switch_ind` only records the switch. -/
theorem runlevelSwitchInd (r : Int) : StaysIdle s (runlevelSwitchInd r s) := fun hi => by
  suffices StaysIdle s (Dsme.runlevelSwitchInd r s) from this hi
  unfold Dsme.runlevelSwitchInd
  split
  · dsimp only
    split
    · exact of_frame rfl rfl
    · exact absurd hi.2 ‹_›
  split
  · dsimp only
    split
    · exact of_frame rfl rfl
    · exact absurd hi.1 ‹_›
  · exact refl s

/-- A live timer of the direct build would be armed, so only the other four
fire from an idle state. -/
theorem timerExpired (hd : cfg.direct = false) (hy : Hygienic s) (x : Nat) :
    StaysIdle s (timerExpired cfg x s) := fun hi => by
  suffices StaysIdle s (Dsme.timerExpired cfg x s) from this hi
  unfold Dsme.timerExpired
  split
  · exact refl s
  · rename_i sch hx
    have harmed : s.handle sch.callback ≠ 0 := (hy.owned x sch hx) ▸ hy.ne_zero_of_live hx
    suffices StaysIdle s (timerCallback cfg sch.callback s) from this.trans (of_frame rfl rfl)
    have input : ∀ {k : TimerKind} {set : State → State}, k ≠ .delayedActdead ∧ k ≠ .delayedUser →
        (∀ s, SameCore s (set s)) → StaysIdle s (delayedInputFn k set cfg s) := fun hk hset =>
      (policyAfter hd (hset _).outbox (hset _).handle).trans (setHandle_zero _)
    cases hc : sch.callback with
    | overheat => exact input (by decide) fun _ => sameCore_setDeviceOverheated _
    | chargerDisconnect => exact input (by decide) fun _ => sameCore_setChargerState _
    | batteryEmpty => exact input (by decide) fun _ => sameCore_setBatteryEmpty _
    | delayedShutdown => exact (emit (by rfl)).trans (setHandle_zero _)
    | delayedActdead => exact absurd hi.1 (hc ▸ harmed)
    | delayedUser => exact absurd hi.2 (hc ▸ harmed)

/-- **Every step of the default build keeps the direct build's timers idle
and sends no `CHANGE_RUNLEVEL`.** -/
theorem step (hd : cfg.direct = false) (hy : Hygienic s) (e : Event) :
    StaysIdle s (step cfg s e) := by
  cases e with
  | telinit conn r =>
    cases r with
    | none => exact refl s
    | some r => exact telinitHandler hd _ conn
  | shutdownReq conn => exact telinitHandler hd .shutdown conn
  | rebootReq conn => exact telinitHandler hd .reboot conn
  | powerupReq conn => exact telinitHandler hd .user conn
  | stateQuery => exact emit (by rfl)
  | setAlarmState v => exact policyAfter hd rfl rfl
  | setUsbState v | setBatteryLevel v => exact of_frame rfl rfl
  | setChargerState c => exact handleSetChargerState hd c
  | setThermalStatus st =>
    simp only [Dsme.step]
    split
    · exact startInputTimer hd (by decide) (fun _ => sameCore_setDeviceOverheated _) _
    · exact refl s
  | setEmergencyCallState v =>
    exact (updateEmergencyCallOngoing hd v).trans (changeStateIfNecessary hd)
  | setBatteryState empty =>
    simp only [Dsme.step]
    split
    · exact (emit (by rfl)).trans
        (startInputTimer hd (by decide) (fun _ => sameCore_setBatteryEmpty _) _)
    · exact stopTimer _
  | dbusConnected | dbusDisconnect => exact refl s
  | blockShutdown conn | allowShutdown conn =>
    simp only [Dsme.step]
    split
    · exact updateShutdownBlocked hd _
    · exact refl s
  | runlevelSwitchDone r => exact runlevelSwitchInd r
  | timerExpired x => exact timerExpired hd hy x

/-- `module_init` of the default build: `ENTER_MALF` at most, then the policy. -/
theorem moduleInit (hd : cfg.direct = false) (b : Option (List Char)) (rdMode : Bool) :
    StaysIdle {} (moduleInit cfg b rdMode) := by
  refine StaysIdle.trans ?_ (changeStateIfNecessary hd)
  have h₀ := sameCore_initialStateBits (b.getD "USER".toList) {}
  unfold setInitialStateBits
  generalize initialStateBits (b.getD "USER".toList) {} = r at h₀
  obtain ⟨s₁, p, m⟩ := r
  dsimp only at h₀ ⊢
  split
  · exact (of_sameCore h₀).trans (emit (by rfl))
  · exact of_sameCore h₀

end StaysIdle

/-- **The default build never sends `CHANGE_RUNLEVEL`.**  Without
`DSME_SUPPORT_DIRECT_USER_ACTDEAD`, in every reachable state neither the
actdead-delay nor the user-delay timer is armed, and the module has sent no
`CHANGE_RUNLEVEL` message: the runlevel only changes through `SHUTDOWN`. -/
theorem Reachable.default_build_never_changes_runlevel {cfg : Config} {s : State}
    (hd : cfg.direct = false) (h : Reachable cfg s) :
    s.handle .delayedActdead = 0 ∧ s.handle .delayedUser = 0 ∧
      ∀ r, Out.broadcastInternally (.changeRunlevel r) ∉ s.outbox := by
  suffices DirectIdle s ∧ ∀ o ∈ s.outbox, o.isChangeRunlevel = false from
    ⟨this.1.1, this.1.2, fun r hr => absurd (this.2 _ hr) (by simp [Out.isChangeRunlevel])⟩
  induction h with
  | init b rd =>
    obtain ⟨hi, new, e, hq⟩ := StaysIdle.moduleInit hd b rd ⟨rfl, rfl⟩
    exact ⟨hi, by simpa [e] using hq⟩
  | @step s e hr ih =>
    obtain ⟨hi, new, he, hq⟩ := StaysIdle.step hd hr.inv.hyg e ih.1
    refine ⟨hi, fun o ho => ?_⟩
    rw [he] at ho
    exact (List.mem_append.1 ho).elim (ih.2 o) (hq o)

/-- `TELINIT ACTDEAD` from `User`, then the first timer fires: in the direct
build it is the actdead-delay timer, which sends `CHANGE_RUNLEVEL`. -/
def actdeadFromUser : List Event := [.telinit .root (some "ACTDEAD".toList), .timerExpired 1]

/-- The direct build arms the actdead-delay timer and sends `CHANGE_RUNLEVEL`
for the same events; the default build goes down through `Shutdown` instead. -/
theorem default_build_never_changes_runlevel_on_actdead_request :
    (bootRun (Config.plain true) (actdeadFromUser.take 1)).handle .delayedActdead ≠ 0 ∧
    Out.broadcastInternally (.changeRunlevel 4) ∈ (bootRun (Config.plain true) actdeadFromUser).outbox ∧
    (Config.plain false).direct = false ∧
    (bootRun (Config.plain false) actdeadFromUser).handle .delayedActdead = 0 ∧
      (bootRun (Config.plain false) actdeadFromUser).handle .delayedUser = 0 ∧
      ∀ r, Out.broadcastInternally (.changeRunlevel r) ∉
        (bootRun (Config.plain false) actdeadFromUser).outbox :=
  ⟨by decide, by decide, rfl,
    Reachable.default_build_never_changes_runlevel rfl ((Reachable.init none false).run _)⟩

end Dsme

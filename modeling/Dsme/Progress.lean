/-
# Runs only move forward

What no step undoes, whatever the event: the outbox only grows, the thermal
and battery-empty latches and a stray `dsme_destroy_timer` stay recorded,
and once `current_state` is `Shutdown` or `Reboot` it stays one of the two,
with every further announcement naming one of them.  A `SHUTDOWN` message is
only sent from one of the two.

`Progress s s'` collects these facts for two states; it is reflexive and
transitive, each building block of the handlers satisfies it, and so does
every step (`Progress.step`) and every run from a reachable state
(`Progress.run`).
-/

import Dsme.Reachable

namespace Dsme

/-- **What a step never undoes**, from `s` to `s'`. -/
structure Progress (s s' : State) : Prop where
  grows : ∃ new, s'.outbox = s.outbox ++ new
  down : IsDown s.currentState → IsDown s'.currentState
  announcedDown : ∀ new, s'.outbox = s.outbox ++ new →
    ∀ x, Out.broadcast (.stateChangeInd x) ∈ new → IsDown s.currentState → IsDown x
  shutdownDown : ∀ new, s'.outbox = s.outbox ++ new → ∀ o ∈ new, o.isShutdown →
    IsDown s'.currentState
  overheated : s.deviceOverheated = true → s'.deviceOverheated = true
  empty : s.batteryEmpty = true → s'.batteryEmpty = true
  stray : s.timers.strayDestroy = true → s'.timers.strayDestroy = true

/-- `change_state` sends `SAVE_DATA_IND` and `STATE_CHANGE_IND` only. -/
theorem mem_announce {o : Out} {new : DsmeState} (h : o ∈ announce new) :
    o = .broadcast .saveDataInd ∨ o = .broadcast (.stateChangeInd new) := by
  unfold announce at h; split at h <;> simp_all

namespace Progress

variable {s s' : State} {cfg : Config}

/-- Build `Progress` from the messages sent in between. -/
theorem intro {new : List Out} (ho : s'.outbox = s.outbox ++ new)
    (hd : IsDown s.currentState → IsDown s'.currentState)
    (ha : ∀ x, Out.broadcast (.stateChangeInd x) ∈ new → IsDown s.currentState → IsDown x)
    (hs : ∀ o ∈ new, o.isShutdown → IsDown s'.currentState)
    (hov : s.deviceOverheated = true → s'.deviceOverheated = true)
    (hem : s.batteryEmpty = true → s'.batteryEmpty = true)
    (hst : s.timers.strayDestroy = true → s'.timers.strayDestroy = true) : Progress s s' := by
  have hn : ∀ n, s'.outbox = s.outbox ++ n → n = new := fun n e =>
    List.append_cancel_left (e.symm.trans ho)
  exact ⟨⟨new, ho⟩, hd, fun n e => hn n e ▸ ha, fun n e => hn n e ▸ hs, hov, hem, hst⟩

theorem refl (s : State) : Progress s s :=
  .intro (List.append_nil _).symm id (fun _ h => nomatch h) (fun _ h => nomatch h) id id id

theorem trans {s₁ s₂ s₃ : State} (h₁ : Progress s₁ s₂) (h₂ : Progress s₂ s₃) :
    Progress s₁ s₃ := by
  obtain ⟨n₁, e₁⟩ := h₁.grows
  obtain ⟨n₂, e₂⟩ := h₂.grows
  have e : s₃.outbox = s₁.outbox ++ (n₁ ++ n₂) := by rw [e₂, e₁, List.append_assoc]
  refine .intro e (h₂.down ∘ h₁.down) (fun x hx hd => ?_) (fun o ho hs => ?_)
    (h₂.overheated ∘ h₁.overheated) (h₂.empty ∘ h₁.empty) (h₂.stray ∘ h₁.stray)
  · rcases List.mem_append.1 hx with hx | hx
    exacts [h₁.announcedDown n₁ e₁ x hx hd, h₂.announcedDown n₂ e₂ x hx (h₁.down hd)]
  · rcases List.mem_append.1 ho with ho | ho
    exacts [h₂.down (h₁.shutdownDown n₁ e₁ o ho hs), h₂.shutdownDown n₂ e₂ o ho hs]

/-- An operation that sends nothing and keeps `current_state`. -/
theorem of_frame (ho : s'.outbox = s.outbox) (hc : s'.currentState = s.currentState)
    (hov : s.deviceOverheated = true → s'.deviceOverheated = true)
    (hem : s.batteryEmpty = true → s'.batteryEmpty = true)
    (hst : s.timers.strayDestroy = true → s'.timers.strayDestroy = true) : Progress s s' :=
  .intro (ho.trans (List.append_nil _).symm) (hc ▸ id) (fun _ h => nomatch h)
    (fun _ h => nomatch h) hov hem hst

/-- An assignment to bits none of these facts reads, then `h`. -/
theorem of_bits {s₂ s₃ : State} (h : Progress s₂ s₃) (ho : s₂.outbox = s.outbox)
    (hc : s₂.currentState = s.currentState) (hov : s₂.deviceOverheated = s.deviceOverheated)
    (hem : s₂.batteryEmpty = s.batteryEmpty) (ht : s₂.timers = s.timers) : Progress s s₃ :=
  (of_frame ho hc (hov ▸ id) (hem ▸ id) (ht ▸ id)).trans h

/-- A message that announces nothing; a `SHUTDOWN` only from `Shutdown` or `Reboot`. -/
theorem emit {o : Out} (ha : o.announced? = none) (hs : o.isShutdown → IsDown s.currentState) :
    Progress s (s.emit o) :=
  .intro rfl id (fun x hx => by rw [← List.mem_singleton.1 hx] at ha; cases ha)
    (fun _ h => List.mem_singleton.1 h ▸ hs) id id id

/-- `change_state`, to `Shutdown` or `Reboot` whenever from one of them. -/
theorem changeState {new : DsmeState} (h : IsDown s.currentState → IsDown new) :
    Progress s (changeState new s) := by
  refine .intro rfl h (fun x hx => ?_) (fun o ho hs => ?_) id id id
  · rcases mem_announce hx with e | e <;> cases e
    exact h
  · rcases mem_announce ho with rfl | rfl <;> simp [Out.isShutdown] at hs

theorem stopTimer (k : TimerKind) : Progress s (s.stopTimer k) :=
  .of_frame rfl rfl id id fun h => by
    rw [State.stopTimer_timers]; split
    · exact h
    · simp [TimerService.destroy, h]

theorem destroyTimer (x : Nat) : Progress s (s.destroyTimer x) :=
  .of_frame rfl rfl id id fun h => by simp [TimerService.destroy, h]

theorem createTimer (k : TimerKind) (sec : Nat) : Progress s (s.createTimer cfg k sec) :=
  .of_frame rfl rfl id id fun h => by
    simp only [State.createTimer_timers, TimerService.create]; split <;> exact h

theorem stopDelayedRunlevelTimers : Progress s (stopDelayedRunlevelTimers s) :=
  ((stopTimer _).trans (stopTimer _)).trans (stopTimer _)

theorem startDelayedShutdownTimer (sec : Nat) : Progress s (startDelayedShutdownTimer cfg sec s) := by
  unfold Dsme.startDelayedShutdownTimer
  split
  · exact (stopDelayedRunlevelTimers.trans (createTimer _ _)).trans (.of_frame rfl rfl id id id)
  · exact refl s

/-- The way down ends in `Shutdown` or `Reboot`. -/
theorem changeStateAndShutdown {n : DsmeState} (hn : IsDown n) :
    Progress s (changeStateAndShutdown cfg n s) :=
  (changeState fun _ => hn).trans (startDelayedShutdownTimer _)

/-- A direct-mode delay timer, started only away from `Shutdown` and `Reboot`. -/
theorem changeStateIfStarted (hs : ¬IsDown s.currentState) (k : TimerKind) (sec : Nat)
    (new : DsmeState) : Progress s (changeStateIfStarted (startDelayedRunlevelTimer k cfg sec s) new) := by
  unfold Dsme.changeStateIfStarted startDelayedRunlevelTimer
  split
  · have hc : Progress s ((s.createTimer cfg k sec).quitIfIdle k) :=
      (createTimer k sec).trans (.of_frame rfl rfl id id id)
    simp only [State.started]
    split
    · exact hc.trans (changeState fun h => absurd h hs)
    · exact hc
  · exact refl s

/-- **`try_to_change_state` never leaves `Shutdown` or `Reboot`**: from them
only the way down is taken. -/
theorem tryToChangeState (new : DsmeState) : Progress s (tryToChangeState cfg new s) := by
  have hr := tryToChangeState_result cfg new s
  generalize Dsme.tryToChangeState cfg new s = r at hr ⊢
  cases hr with
  | unchanged => exact refl s
  | lowBattery => exact .of_frame rfl rfl id id id
  | first h₀ => exact changeState fun h => absurd (h₀ ▸ h) (not_isDown (by decide))
  | down hd hb =>
    exact of_bits (changeStateAndShutdown hd) hb.outbox hb.currentState hb.overheated hb.empty
      hb.timers
  | delayed hk _ hb =>
    have hs : ¬IsDown s.currentState := by
      rcases hk with ⟨-, h⟩ | ⟨-, h⟩ <;> rw [h] <;> exact not_isDown (by decide)
    exact of_bits (changeStateIfStarted (hb.currentState ▸ hs) _ _ _) hb.outbox hb.currentState
      hb.overheated hb.empty hb.timers

theorem changeStateIfNecessary : Progress s (changeStateIfNecessary cfg s) := by
  unfold Dsme.changeStateIfNecessary
  split
  · exact refl s
  · exact tryToChangeState _

/-- A setter of bits none of these facts reads. -/
theorem of_sameCore (h : SameCore s s') (hov : s'.deviceOverheated = s.deviceOverheated)
    (hem : s'.batteryEmpty = s.batteryEmpty) : Progress s s' :=
  .of_frame h.outbox h.currentState (hov ▸ id) (hem ▸ id) (h.timers ▸ id)

section InputTimer

variable {k : TimerKind} {set : State → State} (hset : ∀ s, Progress s (set s))
include hset

theorem delayedInputFn : Progress s (delayedInputFn k set cfg s) :=
  ((hset s).trans changeStateIfNecessary).trans (.of_frame rfl rfl id id id)

theorem startInputTimer (sec : Nat) : Progress s (startInputTimer k set cfg sec s) := by
  unfold Dsme.startInputTimer
  split
  · dsimp only
    split
    · exact (createTimer k sec).trans (delayedInputFn hset)
    · exact createTimer k sec
  · exact refl s

end InputTimer

theorem setDeviceOverheated : Progress s (s.setDeviceOverheated true) :=
  .of_frame rfl rfl (fun _ => rfl) id id

theorem setChargerState (v : ChargerState) : Progress s (s.setChargerState v) :=
  .of_frame rfl rfl id id id

theorem setBatteryEmpty : Progress s (s.setBatteryEmpty true) :=
  .of_frame rfl rfl id (fun _ => rfl) id

theorem handleSetChargerState (connected : Bool) :
    Progress s (handleSetChargerState cfg connected s) := by
  have h₁ : Progress s (Dsme.stopChargerDisconnectTimer s) := by
    unfold Dsme.stopChargerDisconnectTimer
    split
    · exact refl s
    · exact (stopTimer _).trans (setChargerState _)
  unfold Dsme.handleSetChargerState
  dsimp only
  generalize (if connected then ChargerState.connected else .disconnected) = new
  split
  · split <;> exact h₁.trans (startInputTimer (fun _ => setChargerState _) _)
  · exact (h₁.trans (setChargerState _)).trans changeStateIfNecessary

theorem updateEmergencyCallOngoing (v : Bool) :
    Progress s (s.updateEmergencyCallOngoing cfg v) := by
  unfold State.updateEmergencyCallOngoing
  split
  · exact refl s
  split
  · exact of_bits stopDelayedRunlevelTimers rfl rfl rfl rfl rfl
  · exact of_bits changeStateIfNecessary rfl rfl rfl rfl rfl

theorem updateShutdownBlocked (v : Bool) : Progress s (s.updateShutdownBlocked cfg v) := by
  unfold State.updateShutdownBlocked
  split
  · exact refl s
  split
  · exact .of_frame rfl rfl id id id
  · exact of_bits changeStateIfNecessary rfl rfl rfl rfl rfl

theorem telinitHandler (st : DsmeState) (conn : Endpoint) :
    Progress s (telinitHandler cfg st conn s) := by
  have gated : ∀ {requested : DsmeState} {update : State → State}, (∀ s, SameCore s (update s)) →
      (∀ s, (update s).deviceOverheated = s.deviceOverheated ∧
        (update s).batteryEmpty = s.batteryEmpty) →
      Progress s (handleTelinitRequest requested update cfg conn s) := fun hu hl => by
    rw [handleTelinitRequest_eq]
    split
    · split
      · exact emit rfl (fun h => nomatch h)
      · exact (of_sameCore (hu s) (hl s).1 (hl s).2).trans changeStateIfNecessary
    · exact refl s
  cases st with
  | shutdown | actdead | reboot =>
    simp only [Dsme.telinitHandler, handleTelinitShutdown, handleTelinitActdead, handleTelinitReboot]
    exact gated (fun _ => ⟨rfl, rfl, rfl, rfl, rfl⟩) (fun _ => ⟨rfl, rfl⟩)
  | user =>
    simp only [Dsme.telinitHandler, handleTelinitUser]
    split
    · exact of_bits changeStateIfNecessary rfl rfl rfl rfl rfl
    · exact refl s
  | notSet | test | malf | boot | «local» => exact refl s

/-- `delayed_shutdown_fn` sends `SHUTDOWN`, from `Shutdown` or `Reboot`. -/
theorem delayedShutdownFn (h : IsDown s.currentState) : Progress s (delayedShutdownFn s) :=
  (emit (o := .broadcastInternally (.shutdown _)) rfl fun _ => h).trans
    (.of_frame rfl rfl id id id)

theorem delayedRunlevelFn (k : TimerKind) (st : DsmeState) :
    Progress s (delayedRunlevelFn k st s) :=
  (emit (o := .broadcastInternally (.changeRunlevel (state2runlevel st))) rfl
    fun h => nomatch h).trans (.of_frame rfl rfl id id id)

theorem runlevelSwitchInd (r : Int) : Progress s (runlevelSwitchInd r s) := by
  unfold Dsme.runlevelSwitchInd
  split
  · dsimp only
    split
    · exact .of_frame rfl rfl id id id
    · exact of_bits ((destroyTimer _).trans (delayedRunlevelFn _ _)) rfl rfl rfl rfl rfl
  split
  · dsimp only
    split
    · exact .of_frame rfl rfl id id id
    · exact of_bits ((destroyTimer _).trans (delayedRunlevelFn _ _)) rfl rfl rfl rfl rfl
  · exact refl s

/-- A timer fires only while its variable holds it; `SHUTDOWN` is then sent
from `Shutdown` or `Reboot` by the agreement of the delay timers. -/
theorem timerExpired (h : Inv s) (x : Nat) : Progress s (timerExpired cfg x s) := by
  have expire : ∀ {s}, Progress s (s.expireTimer x) := .of_frame rfl rfl id id id
  unfold Dsme.timerExpired
  split
  · exact refl s
  · rename_i sch hx
    have h0 : s.handle sch.callback ≠ 0 :=
      (h.hyg.owned x sch hx).symm ▸ h.hyg.ne_zero_of_live hx
    refine Progress.trans ?_ expire
    cases e : sch.callback <;> rw [e] at h0 <;> simp only [Dsme.timerCallback]
    · exact delayedInputFn fun _ => setDeviceOverheated
    · exact delayedInputFn fun _ => setChargerState _
    · exact delayedInputFn fun _ => setBatteryEmpty
    · exact delayedShutdownFn (h.delay.shutdown h0).1
    · exact delayedRunlevelFn _ _
    · exact delayedRunlevelFn _ _

/-- **Every step moves forward.** -/
theorem step (h : Inv s) (e : Event) : Progress s (step cfg s e) := by
  cases e with
  | telinit conn r =>
    cases r with
    | none => exact refl s
    | some r => exact telinitHandler _ conn
  | shutdownReq conn => exact telinitHandler .shutdown conn
  | rebootReq conn => exact telinitHandler .reboot conn
  | powerupReq conn => exact telinitHandler .user conn
  | stateQuery => exact emit (o := .send (.stateChangeInd s.currentState)) rfl (fun h => nomatch h)
  | setAlarmState v => exact of_bits changeStateIfNecessary rfl rfl rfl rfl rfl
  | setUsbState v | setBatteryLevel v => exact .of_frame rfl rfl id id id
  | setChargerState c => exact handleSetChargerState c
  | setThermalStatus st =>
    simp only [Dsme.step]
    split
    · exact startInputTimer (fun _ => setDeviceOverheated) _
    · exact refl s
  | setEmergencyCallState v =>
    exact (updateEmergencyCallOngoing v).trans changeStateIfNecessary
  | setBatteryState empty =>
    simp only [Dsme.step]
    split
    · exact (emit (o := .broadcast .batteryEmptyInd) rfl (fun h => nomatch h)).trans
        (startInputTimer (fun _ => setBatteryEmpty) _)
    · exact stopTimer _
  | dbusConnected | dbusDisconnect => exact refl s
  | blockShutdown conn | allowShutdown conn =>
    simp only [Dsme.step]
    split
    · exact updateShutdownBlocked _
    · exact refl s
  | runlevelSwitchDone r => exact runlevelSwitchInd r
  | timerExpired x => exact timerExpired h x

/-- **Every run from a reachable state moves forward.** -/
theorem run (h : Reachable cfg s) (es : List Event) : Progress s (run cfg s es) := by
  induction es generalizing s with
  | nil => exact refl s
  | cons e es ih => exact (step h.inv e).trans (ih (h.step e))

end Progress

end Dsme

/-
# The invariant holds in every reachable state

Each event of `Dsme.step` is a handler built from setters, messages, timer
starts and stops, the callbacks and `change_state_if_necessary`.  This file
shows that each of these pieces keeps `Inv` (`Dsme.Invariant`), the
callbacks in the two ways they run: fired by the timer service while their
own variable holds the firing handle, or called inline when the creation of
their timer failed (`start_overheat_timer` and its two siblings) or when a
finished runlevel switch fires a pending delay timer at once
(`runlevel_switch_ind`).  `module_init` establishes `Inv`, and `Inv.step`
keeps it, so `Reachable.inv` holds it everywhere.
-/

import Dsme.Invariant

namespace Dsme

variable {s : State} {cfg : Config}

/-- Zeroing handles never breaks the agreement of the delay timers. -/
theorem DelayAgreement.mono {s' : State} (h : DelayAgreement s)
    (hh : ∀ j, s'.handle j = 0 ∨ s'.handle j = s.handle j)
    (hc : s'.currentState = s.currentState) : DelayAgreement s' := by
  have key : ∀ j, s'.handle j ≠ 0 → s.handle j ≠ 0 := fun j hj =>
    (hh j).elim (fun e => absurd e hj) (fun e => e ▸ hj)
  have zero : ∀ j, s.handle j = 0 → s'.handle j = 0 := fun j hj =>
    (hh j).elim id (fun e => e.trans hj)
  refine ⟨fun h₁ => ?_, fun h₂ => hc ▸ h.actdead (key _ h₂), fun h₃ => hc ▸ h.user (key _ h₃)⟩
  obtain ⟨a, b, c⟩ := h.shutdown (key _ h₁)
  exact ⟨hc ▸ a, zero _ b, zero _ c⟩

/-- **The invariant survives an operation that only zeroes handles**, keeps
hygiene and the history, and leaves `current_state`, the emergency bit and
the latches alone. -/
theorem Inv.mono {s' : State} (h : Inv s) (hy : Hygienic s')
    (hh : ∀ j, s'.handle j = 0 ∨ s'.handle j = s.handle j)
    (hc : s'.currentState = s.currentState) (ha : Announced s')
    (he : s'.emergencyCallOngoing = s.emergencyCallOngoing)
    (hov : s'.deviceOverheated = s.deviceOverheated) (hem : s'.batteryEmpty = s.batteryEmpty) :
    Inv s' := by
  refine h.congr ⟨hy, h.delay.mono hh hc, fun he' => ?_, ha⟩ hc he hov hem
  obtain ⟨a, b, c⟩ := h.frozen (he ▸ he')
  exact ⟨(hh _).elim id (· ▸ a), (hh _).elim id (· ▸ b), (hh _).elim id (· ▸ c)⟩

/-- Setting a handle variable to `0` leaves it `0` or as it was. -/
theorem update_zero_or_self (f : TimerKind → Nat) (k j : TimerKind) :
    Function.update f k 0 j = 0 ∨ Function.update f k 0 j = f j := by
  rw [Function.update_apply]; split <;> simp

/-- A message that neither announces a state nor carries a runlevel keeps the core. -/
theorem Core.emit (h : Core s) {o : Out} (ha : o.announced? = none) (hr : o.runlevel? = none) :
    Core (s.emit o) :=
  h.congr (h.hyg.congr rfl rfl) (fun _ _ => rfl) rfl (h.announced.emit ha (by simp [hr])) rfl

theorem Inv.emit (h : Inv s) {o : Out} (ha : o.announced? = none) (hr : o.runlevel? = none) :
    Inv (s.emit o) :=
  h.congr (h.toCore.emit ha hr) rfl rfl rfl rfl

/-- `deny_state_change_request` only broadcasts its refusal. -/
theorem Inv.deny (h : Inv s) (denied : DsmeState) (reason : List Char) :
    Inv (denyStateChangeRequest denied reason s) :=
  h.emit (o := .broadcast (.stateReqDeniedInd denied reason)) rfl rfl

/-- Zeroing a held handle while its timer leaves the service keeps the invariant. -/
theorem Inv.clear (h : Inv s) {k : TimerKind} (hk : s.handle k ≠ 0) {s' : State}
    (hh : s'.handle = Function.update s.handle k 0)
    (hl : s'.timers.live = Function.update s.timers.live (s.handle k) none)
    (hn : s'.timers.next = s.timers.next) (hs : s'.timers.strayDestroy = false)
    (hc : s'.currentState = s.currentState) (ha : Announced s')
    (he : s'.emergencyCallOngoing = s.emergencyCallOngoing)
    (hov : s'.deviceOverheated = s.deviceOverheated) (hem : s'.batteryEmpty = s.batteryEmpty) :
    Inv s' :=
  h.mono ((h.hyg.clear hk hl hn hs).congr hh rfl)
    (fun j => hh ▸ update_zero_or_self _ k j) hc ha he hov hem

theorem Inv.stopTimer (h : Inv s) (k : TimerKind) : Inv (s.stopTimer k) :=
  h.mono (h.hyg.stopTimer k) (update_zero_or_self _ k) rfl (h.announced.congr rfl rfl) rfl rfl rfl

/-- Writing `0` into a handle variable that holds `0` changes nothing. -/
theorem Inv.setHandle_idle (h : Inv s) {k : TimerKind} (hk : s.handle k = 0) :
    Inv (s.setHandle k 0) :=
  h.of_eq (Function.update_eq_self_iff.2 hk.symm) rfl rfl rfl rfl rfl rfl

/-- The table's runlevel of a state the delay timers announce is the one
`state2runlevel` computes. -/
theorem specRunlevel_state2runlevel {x : DsmeState}
    (hx : x = .shutdown ∨ x = .reboot ∨ x = .actdead ∨ x = .user) :
    specRunlevel x = some (state2runlevel x) := by
  rcases hx with rfl | rfl | rfl | rfl <;> rfl

/-- **A delay timer's callback keeps the invariant**, fired by the service or
at once: it clears its own handle, and its message carries the table's
runlevel of the announced state. -/
theorem Inv.delayedFire (h : Inv s) {k : TimerKind} (hk : s.handle k ≠ 0) {m : Msg}
    (hm : ∀ r, (Out.broadcastInternally m).runlevel? = some r →
      specRunlevel s.currentState = some r)
    (hma : (Out.broadcastInternally m).announced? = none) {s' : State}
    (hh : s'.handle = Function.update s.handle k 0)
    (ht : s'.timers = s.timers.expire (s.handle k) ∨ s'.timers = s.timers.destroy (s.handle k))
    (hc : s'.currentState = s.currentState) (ho : s'.outbox = s.outbox ++ [.broadcastInternally m])
    (he : s'.emergencyCallOngoing = s.emergencyCallOngoing)
    (hov : s'.deviceOverheated = s.deviceOverheated) (hem : s'.batteryEmpty = s.batteryEmpty) :
    Inv s' := by
  have ha : Announced s' := (h.announced.emit hma hm).congr hc ho
  obtain ⟨sec, hsec⟩ := h.hyg.held k hk
  rcases ht with ht | ht <;> refine h.clear hk hh ?_ ?_ ?_ hc ha he hov hem <;>
    simp [ht, TimerService.expire, TimerService.destroy, hsec, h.hyg.noStray]

/-- `delayed_shutdown_fn`, fired by the service. -/
theorem Inv.delayedShutdown_fire (h : Inv s) (hk : s.handle .delayedShutdown ≠ 0) :
    Inv ((delayedShutdownFn s).expireTimer (s.handle .delayedShutdown)) := by
  have hr := specRunlevel_state2runlevel ((h.delay.shutdown hk).1.elim .inl (.inr ∘ .inl))
  refine h.delayedFire (m := .shutdown (state2runlevel s.currentState)) hk
    (fun _ e => by cases e; exact hr) rfl ?_ (.inl ?_) ?_ ?_ ?_ ?_ ?_ <;>
    simp [delayedShutdownFn]

/-- `delayed_actdead_fn` and `delayed_user_fn`, fired by the service or at once
by `runlevel_switch_ind`. -/
theorem Inv.delayedRunlevel_fire (h : Inv s) {k : TimerKind} {st : DsmeState}
    (hk : (k = .delayedActdead ∧ st = .actdead) ∨ (k = .delayedUser ∧ st = .user))
    (h0 : s.handle k ≠ 0) :
    Inv ((delayedRunlevelFn k st s).expireTimer (s.handle k)) ∧
      Inv (delayedRunlevelFn k st (s.destroyTimer (s.handle k))) := by
  have hc : s.currentState = st := by
    rcases hk with ⟨rfl, rfl⟩ | ⟨rfl, rfl⟩
    exacts [h.delay.actdead h0, h.delay.user h0]
  have hr := specRunlevel_state2runlevel (x := st) (by rcases hk with ⟨-, rfl⟩ | ⟨-, rfl⟩ <;> simp)
  have hm : ∀ r, (Out.broadcastInternally (.changeRunlevel (state2runlevel st))).runlevel? =
      some r → specRunlevel s.currentState = some r := fun _ e => by cases e; rw [hc, hr]
  constructor
  · refine h.delayedFire h0 hm rfl ?_ (.inl ?_) ?_ ?_ ?_ ?_ ?_ <;> simp [delayedRunlevelFn, changeRunlevel]
  · refine h.delayedFire h0 hm rfl ?_ (.inr ?_) ?_ ?_ ?_ ?_ ?_ <;> simp [delayedRunlevelFn, changeRunlevel]

/-- The assignments the input timers' callbacks make. -/
theorem sameCore_setDeviceOverheated (v : Bool) : SameCore s (s.setDeviceOverheated v) :=
  ⟨rfl, rfl, rfl, rfl, rfl⟩

theorem sameCore_setChargerState (v : ChargerState) : SameCore s (s.setChargerState v) :=
  ⟨rfl, rfl, rfl, rfl, rfl⟩

theorem sameCore_setBatteryEmpty (v : Bool) : SameCore s (s.setBatteryEmpty v) :=
  ⟨rfl, rfl, rfl, rfl, rfl⟩

section InputTimer

variable {k : TimerKind} {set : State → State} (hk : ¬k.IsDelay) (hset : ∀ s, SameCore s (set s))
include hk hset

/-- An input timer's callback run inline, its handle still `0` after a failed creation. -/
theorem Core.delayedInputFn_idle (h : Core s) (h0 : s.handle k = 0) :
    Inv (delayedInputFn k set cfg s) := by
  have hi : Inv (changeStateIfNecessary cfg (set s)) := changeStateIfNecessary_inv (h.of_same (hset s))
  refine hi.setHandle_idle ?_
  rw [changeStateIfNecessary_keeps.inputTimer k hk, (hset s).handle, h0]

/-- **An input timer's callback fired by the service keeps the invariant**: it
re-runs the policy, which leaves its handle alone, and then clears it. -/
theorem Inv.delayedInputFn_fire (h : Inv s) (h0 : s.handle k ≠ 0) :
    Inv ((delayedInputFn k set cfg s).expireTimer (s.handle k)) := by
  have hi : Inv (changeStateIfNecessary cfg (set s)) :=
    changeStateIfNecessary_inv (h.toCore.of_same (hset s))
  have hk' : (changeStateIfNecessary cfg (set s)).handle k = s.handle k := by
    rw [changeStateIfNecessary_keeps.inputTimer k hk, (hset s).handle]
  refine hi.clear (hk' ▸ h0) ?_ ?_ ?_ hi.hyg.noStray ?_ (hi.announced.congr ?_ ?_) ?_ ?_ ?_ <;>
    simp [delayedInputFn, TimerService.expire, hk']

/-- `start_overheat_timer` and its two siblings keep the invariant, also when
the creation fails and the callback runs at once. -/
theorem Inv.startInputTimer (h : Inv s) (sec : Nat) : Inv (startInputTimer k set cfg sec s) := by
  unfold Dsme.startInputTimer
  split
  · rename_i h0
    have hd : ∀ j, j.IsDelay → (s.createTimer cfg k sec).handle j = s.handle j :=
      fun j hj => Function.update_noteq (by rintro rfl; exact hk hj) _ _
    have hi : Inv (s.createTimer cfg k sec) :=
      h.congr (h.toCore.congr (h.hyg.createTimer h0 cfg sec) hd rfl (h.announced.congr rfl rfl) rfl)
        rfl rfl rfl rfl
    dsimp only
    split
    · exact hi.toCore.delayedInputFn_idle hk hset ‹_›
    · exact hi
  · exact h

end InputTimer

/-- The three input kinds are not delay timers. -/
theorem not_isDelay_overheat : ¬TimerKind.IsDelay .overheat := by simp [TimerKind.IsDelay]
theorem not_isDelay_chargerDisconnect : ¬TimerKind.IsDelay .chargerDisconnect := by
  simp [TimerKind.IsDelay]
theorem not_isDelay_batteryEmpty : ¬TimerKind.IsDelay .batteryEmpty := by simp [TimerKind.IsDelay]

/-- `stop_charger_disconnect_timer` commits a pending disconnect. -/
theorem Inv.stopChargerDisconnectTimer (h : Inv s) : Inv (stopChargerDisconnectTimer s) := by
  unfold Dsme.stopChargerDisconnectTimer
  split
  · exact h
  · exact (h.stopTimer _).of_eq rfl rfl rfl rfl rfl rfl rfl

theorem Inv.handleSetChargerState (h : Inv s) (connected : Bool) :
    Inv (handleSetChargerState cfg connected s) := by
  have h' := h.stopChargerDisconnectTimer
  unfold Dsme.handleSetChargerState
  dsimp only
  generalize (if connected then ChargerState.connected else .disconnected) = new
  split
  · have hset : ∀ s, SameCore s (State.setChargerState .disconnected s) :=
      fun _ => sameCore_setChargerState _
    split <;> exact h'.startInputTimer not_isDelay_chargerDisconnect hset _
  · exact changeStateIfNecessary_inv (h'.toCore.of_same (sameCore_setChargerState _))

/-- A starting emergency call stops the delay timers; an ending one re-runs the
policy, which `change_state_if_necessary` in the handler runs once more. -/
theorem Inv.updateEmergencyCallOngoing_core (h : Inv s) (v : Bool) :
    Core (s.updateEmergencyCallOngoing cfg v) := by
  unfold State.updateEmergencyCallOngoing
  split
  · exact h.toCore
  split
  · exact stopDelayedRunlevelTimers_core (h.hyg.congr rfl rfl) (h.announced.congr rfl rfl)
  · rename_i hv
    have hc : Core (s.setEmergencyCallOngoing v) :=
      ⟨h.hyg.congr rfl rfl, h.delay.mono (fun _ => .inr rfl) rfl,
        frozen_of_not_emergency (by simpa [State.setEmergencyCallOngoing] using hv),
        h.announced.congr rfl rfl⟩
    exact (changeStateIfNecessary_inv hc).toCore

theorem Inv.updateShutdownBlocked (h : Inv s) (v : Bool) : Inv (s.updateShutdownBlocked cfg v) := by
  unfold State.updateShutdownBlocked
  split
  · exact h
  split
  · exact h.of_eq rfl rfl rfl rfl rfl rfl rfl
  · exact changeStateIfNecessary_inv (h.toCore.of_eq rfl rfl rfl rfl rfl)

/-- The three gated telinit handlers keep the invariant: a refusal only broadcasts. -/
theorem Inv.handleTelinitRequest (h : Inv s) {requested : DsmeState} {update : State → State}
    (hu : ∀ s, SameCore s (update s)) (conn : Endpoint) :
    Inv (handleTelinitRequest requested update cfg conn s) := by
  rw [handleTelinitRequest_eq]
  split
  · split
    · exact h.deny _ _
    · exact changeStateIfNecessary_inv (h.toCore.of_same (hu s))
  · exact h

theorem Inv.telinitHandler (h : Inv s) (st : DsmeState) (conn : Endpoint) :
    Inv (telinitHandler cfg st conn s) := by
  cases st with
  | shutdown | actdead | reboot =>
    simp only [Dsme.telinitHandler, handleTelinitShutdown, handleTelinitActdead, handleTelinitReboot]
    refine h.handleTelinitRequest ?_ conn
    exact fun _ => ⟨rfl, rfl, rfl, rfl, rfl⟩
  | user =>
    simp only [Dsme.telinitHandler, handleTelinitUser]
    split
    · exact changeStateIfNecessary_inv (h.toCore.of_eq rfl rfl rfl rfl rfl)
    · exact h
  | notSet | test | malf | boot | «local» => exact h

/-- A finished runlevel switch fires the pending delay timer of the other direction. -/
theorem Inv.runlevelSwitchInd (h : Inv s) (r : Int) : Inv (runlevelSwitchInd r s) := by
  unfold Dsme.runlevelSwitchInd
  split
  · have h' : Inv (s.setActdeadSwitchDone true) := h.of_eq rfl rfl rfl rfl rfl rfl rfl
    dsimp only
    split
    · exact h'
    · exact (h'.delayedRunlevel_fire (.inr ⟨rfl, rfl⟩) ‹_›).2
  split
  · have h' : Inv (s.setUserSwitchDone true) := h.of_eq rfl rfl rfl rfl rfl rfl rfl
    dsimp only
    split
    · exact h'
    · exact (h'.delayedRunlevel_fire (.inl ⟨rfl, rfl⟩) ‹_›).2
  · exact h

/-- **A timer fires only while its own variable holds its handle**, so its
callback keeps the invariant. -/
theorem Inv.timerExpired (h : Inv s) (x : Nat) : Inv (timerExpired cfg x s) := by
  unfold Dsme.timerExpired
  split
  · exact h
  · rename_i sch hx
    have hown : s.handle sch.callback = x := h.hyg.owned x sch hx
    have h0 : s.handle sch.callback ≠ 0 := hown ▸ h.hyg.ne_zero_of_live hx
    rw [← hown]
    cases e : sch.callback <;> rw [e] at h0 <;> simp only [timerCallback]
    · exact h.delayedInputFn_fire not_isDelay_overheat (fun _ => sameCore_setDeviceOverheated _) h0
    · exact h.delayedInputFn_fire not_isDelay_chargerDisconnect (fun _ => sameCore_setChargerState _) h0
    · exact h.delayedInputFn_fire not_isDelay_batteryEmpty (fun _ => sameCore_setBatteryEmpty _) h0
    · exact h.delayedShutdown_fire h0
    · exact (h.delayedRunlevel_fire (.inl ⟨rfl, rfl⟩) h0).1
    · exact (h.delayedRunlevel_fire (.inr ⟨rfl, rfl⟩) h0).1

/-- **One event keeps the invariant.** -/
theorem Inv.step (h : Inv s) (e : Event) : Inv (step cfg s e) := by
  cases e with
  | telinit conn r =>
    cases r with
    | none => exact h
    | some r => exact h.telinitHandler _ conn
  | shutdownReq conn => exact h.telinitHandler .shutdown conn
  | rebootReq conn => exact h.telinitHandler .reboot conn
  | powerupReq conn => exact h.telinitHandler .user conn
  | stateQuery => exact h.emit (o := .send (.stateChangeInd s.currentState)) rfl rfl
  | setAlarmState v => exact changeStateIfNecessary_inv (h.toCore.of_eq rfl rfl rfl rfl rfl)
  | setUsbState v => exact h.of_eq rfl rfl rfl rfl rfl rfl rfl
  | setChargerState c => exact h.handleSetChargerState c
  | setThermalStatus st =>
    simp only [Dsme.step]
    split
    · exact h.startInputTimer not_isDelay_overheat (fun _ => sameCore_setDeviceOverheated _) _
    · exact h
  | setEmergencyCallState v => exact changeStateIfNecessary_inv (h.updateEmergencyCallOngoing_core v)
  | setBatteryState empty =>
    simp only [Dsme.step]
    split
    · exact (h.emit (o := .broadcast .batteryEmptyInd) rfl rfl).startInputTimer
        not_isDelay_batteryEmpty (fun _ => sameCore_setBatteryEmpty _) _
    · exact h.stopTimer _
  | setBatteryLevel l => exact h.of_eq rfl rfl rfl rfl rfl rfl rfl
  | dbusConnected | dbusDisconnect => exact h
  | blockShutdown conn | allowShutdown conn =>
    simp only [Dsme.step]
    split
    · exact h.updateShutdownBlocked _
    · exact h
  | runlevelSwitchDone r => exact h.runlevelSwitchInd r
  | timerExpired x => exact h.timerExpired x

/-- The bits `set_initial_state_bits` sets are none the invariant's core reads. -/
theorem sameCore_initialStateBits (b : List Char) (s : State) :
    SameCore s (initialStateBits b s).1 := by
  unfold initialStateBits
  repeat' split
  all_goals exact ⟨rfl, rfl, rfl, rfl, rfl⟩

/-- The statics' initial values satisfy the invariant's core. -/
theorem Core.init : Core ({} : State) :=
  ⟨⟨Nat.one_pos, fun _ _ => rfl, rfl, fun _ h => absurd rfl h, fun _ _ h => (nomatch h), rfl⟩,
    .of_idle rfl rfl rfl, fun _ => ⟨rfl, rfl, rfl⟩, ⟨.inl rfl, trivial⟩⟩

theorem Core.setInitialStateBits (h : Core s) (rdMode : Bool) (b : List Char) :
    Core (setInitialStateBits rdMode b s) := by
  have h1 := h.of_same (sameCore_initialStateBits b s)
  unfold Dsme.setInitialStateBits
  generalize initialStateBits b s = r at h1
  obtain ⟨s1, p, m⟩ := r
  dsimp only at h1 ⊢
  split
  · exact h1.emit rfl rfl
  · exact h1

/-- **`module_init` establishes the invariant.** -/
theorem Inv.moduleInit (bootstate : Option (List Char)) (rdMode : Bool) :
    Inv (moduleInit cfg bootstate rdMode) :=
  changeStateIfNecessary_inv (Core.init.setInitialStateBits rdMode _)

/-- **The invariant holds in every reachable state.** -/
theorem Reachable.inv (h : Reachable cfg s) : Inv s := by
  induction h with
  | init b rd => exact .moduleInit b rd
  | step e _ ih => exact ih.step e

end Dsme

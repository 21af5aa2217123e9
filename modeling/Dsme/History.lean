/-
# The shape of what the state module broadcasts

Clients of DSME follow the device state through the messages the state module
sends.  On every run the history of those messages parses as blocks
(`Told`).  A block is either one message that announces nothing and is not
`SAVE_DATA_IND`, or what one `change_state` broadcasts (lines 691-712 of
`src/modules/state.c`) for a move of the state graph `Edge`.
`change_state_if_necessary` calls `try_to_change_state` only when the
policy's choice differs from `current_state`, the policy never selects
`NOT_SET`, `MALF`, `BOOT` or `LOCAL`, and each way down goes to that choice,
or leaves `Actdead` or `User` for `Shutdown` or `Reboot`.  This holds from
any state, for every event (`Tells.step`), with no invariant needed.

Three facts a client relies on follow for every reachable state.  Each
`STATE_CHANGE_IND` is a move of the graph from the state announced before
it: `NOT_SET`, `MALF`, `BOOT` and `LOCAL` are never announced, and only the
direct build moves between `User` and `Actdead`
(`Reachable.announcements_follow_graph`).
`SAVE_DATA_IND` is broadcast exactly right before each `STATE_CHANGE_IND` of
`Shutdown` or `Reboot`, and nowhere else (`Reachable.saveData_pairs_with_down`).
The history also ends where `current_state` is, so a `STATE_QUERY` is
answered with the state announced last (`Reachable.stateQuery_answers_last_announced`).
-/

import Mathlib.Data.List.Chain
import Dsme.Reachable

namespace Dsme

/-- The moves of the state graph in build mode `direct`: to another state,
which is `Shutdown` or `Reboot` from anywhere, `User`, `Actdead` or `Test`
from `NOT_SET`, or, in direct mode only, `User` from `Actdead` and `Actdead`
from `User`. -/
def Edge (direct : Bool) (x y : DsmeState) : Prop :=
  y ≠ x ∧ (IsDown y ∨ x = .notSet ∧ (y = .user ∨ y = .actdead ∨ y = .test) ∨
    direct = true ∧ (x = .actdead ∧ y = .user ∨ x = .user ∧ y = .actdead))

instance (direct : Bool) (x y : DsmeState) : Decidable (Edge direct x y) :=
  inferInstanceAs (Decidable (_ ∧ _))

/-- The policy keeps `current_state` or selects `Shutdown`, `Reboot`, `User`,
`Actdead` or `Test`, rule by rule (`split` on the whole cascade is slow). -/
theorem selectState_cases (cfg : Config) (s : State) :
    selectState cfg s = s.currentState ∨ IsDown (selectState cfg s) ∨
      selectState cfg s = .user ∨ selectState cfg s = .actdead ∨ selectState cfg s = .test := by
  suffices ∀ x, selectState cfg s = x →
      x = s.currentState ∨ IsDown x ∨ x = .user ∨ x = .actdead ∨ x = .test from this _ rfl
  rintro x rfl
  unfold selectState IsDown
  by_cases h₁ : s.emergencyCallOngoing
  · rw [if_pos h₁]; exact .inl rfl
  rw [if_neg h₁]
  by_cases h₂ : s.deviceOverheated
  · rw [if_pos h₂]; exact .inr (.inl (.inl rfl))
  rw [if_neg h₂]
  by_cases h₃ : s.batteryEmpty
  · rw [if_pos h₃]; exact .inr (.inl (.inl rfl))
  rw [if_neg h₃]
  by_cases h₄ : s.shutdownBlocked
  · rw [if_pos h₄]; exact .inl rfl
  rw [if_neg h₄]
  by_cases h₅ : s.testmodeRequested
  · rw [if_pos h₅]; exact .inr (.inr (.inr (.inr rfl)))
  rw [if_neg h₅]
  by_cases h₆ : s.actdeadRequested
  · rw [if_pos h₆]; exact .inr (.inr (.inr (.inl rfl)))
  rw [if_neg h₆]
  split
  · split
    · exact .inr (.inl (.inl rfl))
    split
    · exact .inr (.inl (.inr rfl))
    · exact .inr (.inr (.inr (.inl rfl)))
  · exact .inr (.inr (.inl rfl))

/-- A stretch of history from the state `x` to the state `y`, block by block:
a message that announces nothing and is not `SAVE_DATA_IND`, or the
announcement of a state that is a move of the graph from the one before it. -/
inductive Told (direct : Bool) : DsmeState → List Out → DsmeState → Prop
  | nil (x : DsmeState) : Told direct x [] x
  | quiet {x y : DsmeState} {o : Out} {os : List Out} : o.announced? = none →
      o ≠ .broadcast .saveDataInd → Told direct x os y → Told direct x (o :: os) y
  | change {x y n : DsmeState} {os : List Out} : Edge direct x n → Told direct n os y →
      Told direct x (announce n ++ os) y

theorem Told.append {direct : Bool} {x y z : DsmeState} {a b : List Out}
    (ha : Told direct x a y) (hb : Told direct y b z) : Told direct x (a ++ b) z := by
  induction ha with
  | nil => exact hb
  | quiet ho hs _ ih => exact .quiet ho hs (ih hb)
  | change hn _ ih => rw [List.append_assoc]; exact .change hn (ih hb)

/-- What a step broadcasts, told from the state it starts in to the one it
ends in. -/
def Tells (cfg : Config) (s s' : State) : Prop :=
  ∃ new, s'.outbox = s.outbox ++ new ∧ Told cfg.direct s.currentState new s'.currentState

namespace Tells

variable {s s' : State} {cfg : Config}

theorem refl (s : State) : Tells cfg s s := ⟨[], (List.append_nil _).symm, .nil _⟩

theorem trans {s₁ s₂ s₃ : State} (h₁ : Tells cfg s₁ s₂) (h₂ : Tells cfg s₂ s₃) :
    Tells cfg s₁ s₃ := by
  obtain ⟨n₁, e₁, t₁⟩ := h₁
  obtain ⟨n₂, e₂, t₂⟩ := h₂
  exact ⟨n₁ ++ n₂, by rw [e₂, e₁, List.append_assoc], t₁.append t₂⟩

/-- An operation that sends nothing and keeps `current_state`. -/
theorem of_frame (ho : s'.outbox = s.outbox) (hc : s'.currentState = s.currentState) :
    Tells cfg s s' :=
  ⟨[], by rw [ho, List.append_nil], hc ▸ .nil _⟩

theorem of_sameCore (h : SameCore s s') : Tells cfg s s' := of_frame h.outbox h.currentState

theorem emit {o : Out} (ha : o.announced? = none) (hs : o ≠ .broadcast .saveDataInd) :
    Tells cfg s (s.emit o) :=
  ⟨[o], rfl, .quiet ha hs (.nil _)⟩

theorem changeState {new : DsmeState} (he : Edge cfg.direct s.currentState new) :
    Tells cfg s (changeState new s) :=
  ⟨announce new, rfl, by simpa using Told.change he (.nil new)⟩

theorem startDelayedShutdownTimer (sec : Nat) : Tells cfg s (startDelayedShutdownTimer cfg sec s) := by
  unfold Dsme.startDelayedShutdownTimer
  split
  · exact of_frame (by simp [stopDelayedRunlevelTimers]) (by simp [stopDelayedRunlevelTimers])
  · exact refl s

theorem changeStateAndShutdown {n : DsmeState} (he : Edge cfg.direct s.currentState n) :
    Tells cfg s (changeStateAndShutdown cfg n s) :=
  (changeState he).trans (startDelayedShutdownTimer _)

theorem changeStateIfStarted {new : DsmeState} (he : Edge cfg.direct s.currentState new)
    (k : TimerKind)
    (sec : Nat) : Tells cfg s (changeStateIfStarted (startDelayedRunlevelTimer k cfg sec s) new) := by
  unfold Dsme.changeStateIfStarted startDelayedRunlevelTimer
  split
  · have hc : Tells cfg s ((s.createTimer cfg k sec).quitIfIdle k) := of_frame rfl rfl
    simp only [State.started]
    split
    · exact hc.trans (changeState he)
    · exact hc
  · exact refl s

/-- **`try_to_change_state` only announces moves of the graph**, when asked
for a new state the policy can select. -/
theorem tryToChangeState {new : DsmeState} (hn : new ≠ s.currentState)
    (hsel : IsDown new ∨ new = .user ∨ new = .actdead ∨ new = .test) :
    Tells cfg s (tryToChangeState cfg new s) := by
  have hr := tryToChangeState_result cfg new s
  generalize Dsme.tryToChangeState cfg new s = r at hr ⊢
  cases hr with
  | unchanged => exact refl s
  | lowBattery => exact of_frame rfl rfl
  | first h₀ => exact changeState ⟨hn, hsel.imp_right fun h => .inl ⟨h₀, h⟩⟩
  | @down n s' hd hb hg =>
    have hn' : n ≠ s.currentState := by
      rcases hg with rfl | hc | hc
      · exact hn
      all_goals rw [hc]; rcases hd with rfl | rfl <;> decide
    exact (of_sameCore hb.toSameCore).trans
      (changeStateAndShutdown (hb.currentState ▸ ⟨hn', .inl hd⟩))
  | delayed hk hnew hb hdir =>
    have hmove : s.currentState = .actdead ∧ new = .user ∨
        s.currentState = .user ∧ new = .actdead := by
      rcases hk with ⟨-, hc⟩ | ⟨-, hc⟩ <;> rcases hnew with rfl | rfl <;> simp_all
    exact (of_sameCore hb.toSameCore).trans
      (changeStateIfStarted (hb.currentState ▸ ⟨hn, .inr (.inr ⟨hdir, hmove⟩)⟩) _ _)

theorem changeStateIfNecessary : Tells cfg s (changeStateIfNecessary cfg s) := by
  unfold Dsme.changeStateIfNecessary
  split
  · exact refl s
  · exact tryToChangeState (Ne.symm ‹_›) ((selectState_cases cfg s).resolve_left (Ne.symm ‹_›))

/-- An assignment that sends nothing and keeps `current_state`, then the policy. -/
theorem policyAfter (ho : s'.outbox = s.outbox) (hc : s'.currentState = s.currentState) :
    Tells cfg s (Dsme.changeStateIfNecessary cfg s') :=
  (of_frame ho hc).trans changeStateIfNecessary

section InputTimer

variable {k : TimerKind} {set : State → State} (hset : ∀ s, SameCore s (set s))
include hset

theorem startInputTimer (sec : Nat) : Tells cfg s (startInputTimer k set cfg sec s) := by
  unfold Dsme.startInputTimer delayedInputFn
  have hc : Tells cfg s (s.createTimer cfg k sec) := of_frame rfl rfl
  split
  · dsimp only
    split
    · exact hc.trans (((of_sameCore (hset _)).trans changeStateIfNecessary).trans
        (of_frame rfl rfl))
    · exact hc
  · exact refl s

end InputTimer

theorem handleSetChargerState (connected : Bool) :
    Tells cfg s (handleSetChargerState cfg connected s) := by
  have h₁ : Tells cfg s (stopChargerDisconnectTimer s) := by
    unfold stopChargerDisconnectTimer
    split
    · exact refl s
    · exact of_frame rfl rfl
  unfold Dsme.handleSetChargerState
  dsimp only
  generalize (if connected then ChargerState.connected else .disconnected) = new
  split
  · split <;> exact h₁.trans (startInputTimer (fun _ => sameCore_setChargerState _) _)
  · exact h₁.trans (policyAfter rfl rfl)

theorem telinitHandler (st : DsmeState) (conn : Endpoint) :
    Tells cfg s (telinitHandler cfg st conn s) := by
  have gated : ∀ {requested : DsmeState} {update : State → State},
      (∀ s, SameCore s (update s)) → Tells cfg s (handleTelinitRequest requested update cfg conn s) :=
    fun hu => by
      rw [handleTelinitRequest_eq]
      split
      · split
        · exact emit rfl (by simp)
        · exact (of_sameCore (hu s)).trans changeStateIfNecessary
      · exact refl s
  cases st with
  | shutdown | actdead | reboot =>
    simp only [Dsme.telinitHandler, handleTelinitShutdown, handleTelinitActdead, handleTelinitReboot]
    exact gated fun _ => ⟨rfl, rfl, rfl, rfl, rfl⟩
  | user =>
    simp only [Dsme.telinitHandler, handleTelinitUser]
    split
    · exact policyAfter rfl rfl
    · exact refl s
  | notSet | test | malf | boot | «local» => exact refl s

theorem updateShutdownBlocked (v : Bool) : Tells cfg s (s.updateShutdownBlocked cfg v) := by
  unfold State.updateShutdownBlocked
  split
  · exact refl s
  split
  · exact of_frame rfl rfl
  · exact policyAfter rfl rfl

theorem delayedRunlevelFn (k : TimerKind) (st : DsmeState) :
    Tells cfg s (delayedRunlevelFn k st s) :=
  (emit (o := .broadcastInternally (.changeRunlevel (state2runlevel st))) rfl (by simp)).trans
    (of_frame rfl rfl)

theorem runlevelSwitchInd (r : Int) : Tells cfg s (runlevelSwitchInd r s) := by
  unfold Dsme.runlevelSwitchInd
  split
  · dsimp only
    split
    · exact of_frame rfl rfl
    · exact (of_frame rfl rfl).trans (delayedRunlevelFn _ _)
  split
  · dsimp only
    split
    · exact of_frame rfl rfl
    · exact (of_frame rfl rfl).trans (delayedRunlevelFn _ _)
  · exact refl s

theorem timerExpired (x : Nat) : Tells cfg s (timerExpired cfg x s) := by
  unfold Dsme.timerExpired
  split
  · exact refl s
  · rename_i sch _
    suffices Tells cfg s (timerCallback cfg sch.callback s) from this.trans (of_frame rfl rfl)
    cases sch.callback <;> simp only [timerCallback, delayedOverheatFn,
      delayedChargerDisconnectFn, delayedBatteryEmptyFn, delayedInputFn, delayedActdeadFn,
      delayedUserFn]
    · exact ((of_sameCore (sameCore_setDeviceOverheated _)).trans changeStateIfNecessary).trans
        (of_frame rfl rfl)
    · exact ((of_sameCore (sameCore_setChargerState _)).trans changeStateIfNecessary).trans
        (of_frame rfl rfl)
    · exact ((of_sameCore (sameCore_setBatteryEmpty _)).trans changeStateIfNecessary).trans
        (of_frame rfl rfl)
    · exact (emit (o := .broadcastInternally (.shutdown _)) rfl (by simp)).trans (of_frame rfl rfl)
    · exact delayedRunlevelFn _ _
    · exact delayedRunlevelFn _ _

/-- **Every step, from any state, broadcasts blocks.** -/
theorem step (e : Event) : Tells cfg s (step cfg s e) := by
  cases e with
  | telinit conn r =>
    cases r with
    | none => exact refl s
    | some r => exact telinitHandler _ conn
  | shutdownReq conn => exact telinitHandler .shutdown conn
  | rebootReq conn => exact telinitHandler .reboot conn
  | powerupReq conn => exact telinitHandler .user conn
  | stateQuery => exact emit (o := .send (.stateChangeInd s.currentState)) rfl (by simp)
  | setAlarmState v => exact policyAfter rfl rfl
  | setUsbState v | setBatteryLevel v => exact of_frame rfl rfl
  | setChargerState c => exact handleSetChargerState c
  | setThermalStatus st =>
    simp only [Dsme.step]
    split
    · exact startInputTimer (fun _ => sameCore_setDeviceOverheated _) _
    · exact refl s
  | setEmergencyCallState v =>
    refine Tells.trans ?_ changeStateIfNecessary
    unfold State.updateEmergencyCallOngoing
    split
    · exact refl s
    split
    · exact of_frame (by simp [stopDelayedRunlevelTimers, State.setEmergencyCallOngoing])
        (by simp [stopDelayedRunlevelTimers, State.setEmergencyCallOngoing])
    · exact policyAfter rfl rfl
  | setBatteryState empty =>
    simp only [Dsme.step]
    split
    · exact (emit (o := .broadcast .batteryEmptyInd) rfl (by simp)).trans
        (startInputTimer (fun _ => sameCore_setBatteryEmpty _) _)
    · exact of_frame rfl rfl
  | dbusConnected | dbusDisconnect => exact refl s
  | blockShutdown conn | allowShutdown conn =>
    simp only [Dsme.step]
    split
    · exact updateShutdownBlocked _
    · exact refl s
  | runlevelSwitchDone r => exact runlevelSwitchInd r
  | timerExpired x => exact timerExpired x

/-- **Every run, from any state, broadcasts blocks.** -/
theorem run (s : State) (es : List Event) : Tells cfg s (run cfg s es) := by
  induction es generalizing s with
  | nil => exact refl s
  | cons e es ih => exact (step e).trans (ih _)

/-- `module_init` starts the history: `ENTER_MALF` at most, then the policy. -/
theorem moduleInit (b : Option (List Char)) (rdMode : Bool) :
    Tells cfg {} (moduleInit cfg b rdMode) := by
  refine Tells.trans ?_ changeStateIfNecessary
  have h₀ := sameCore_initialStateBits (b.getD "USER".toList) {}
  unfold setInitialStateBits
  generalize initialStateBits (b.getD "USER".toList) {} = r at h₀
  obtain ⟨s₁, p, m⟩ := r
  dsimp only at h₀ ⊢
  split
  · exact (of_sameCore h₀).trans (emit rfl (by simp))
  · exact of_sameCore h₀

end Tells

/-- The history of every reachable state is blocks, from `NOT_SET` to
`current_state`. -/
theorem Reachable.told {cfg : Config} {s : State} (h : Reachable cfg s) :
    Told cfg.direct .notSet s.outbox s.currentState := by
  induction h with
  | init b rd =>
    obtain ⟨new, e, t⟩ : Tells cfg {} (moduleInit cfg b rd) := Tells.moduleInit b rd
    rw [e]
    exact t
  | @step s e _ ih =>
    obtain ⟨new, he, t⟩ : Tells cfg s (Dsme.step cfg s e) := Tells.step e
    rw [he]
    exact ih.append t

theorem announce_filterMap (n : DsmeState) : (announce n).filterMap Out.announced? = [n] := by
  unfold announce; split <;> rfl

/-- Each announcement is a move of the graph from the one before it, the
first from `x`. -/
theorem Told.announcements {direct : Bool} {x y : DsmeState} {os : List Out}
    (h : Told direct x os y) : (os.filterMap Out.announced?).Chain (Edge direct) x := by
  induction h with
  | nil => exact .nil
  | quiet ho _ _ ih => rwa [List.filterMap_cons_none ho]
  | change he _ ih =>
    rw [List.filterMap_append, announce_filterMap]
    exact .cons he ih

/-- The state announced last, `x` when none is, is where the history ends. -/
theorem Told.last {direct : Bool} {x y : DsmeState} {os : List Out} (h : Told direct x os y) :
    (os.filterMap Out.announced?).getLast?.getD x = y := by
  induction h with
  | nil => rfl
  | quiet ho _ _ ih => rwa [List.filterMap_cons_none ho]
  | change _ _ ih =>
    rw [List.filterMap_append, announce_filterMap, List.singleton_append, List.getLast?_cons,
      Option.getD_some, ih]

/-- After a `SAVE_DATA_IND` comes a `STATE_CHANGE_IND` of `Shutdown` or `Reboot`. -/
theorem Told.saveData_next {direct : Bool} {x y : DsmeState} {os : List Out}
    (h : Told direct x os y) :
    ∀ pre post, os = pre ++ .broadcast .saveDataInd :: post →
      ∃ z, IsDown z ∧ post.head? = some (.broadcast (.stateChangeInd z)) := by
  induction h with
  | nil => intro pre post e; simp at e
  | quiet _ hs _ ih =>
    intro pre post e
    rcases pre with _ | ⟨a, pre⟩
    · exact absurd (List.cons.inj e).1 hs
    · exact ih pre post (List.cons.inj e).2
  | @change _ _ n _ _ _ ih =>
    intro pre post e
    unfold announce at e
    split at e
    · rcases pre with _ | ⟨a, _ | ⟨b, pre⟩⟩
      · obtain ⟨-, rfl⟩ := List.cons.inj e
        exact ⟨n, ‹_›, rfl⟩
      · simp at e
      · exact ih pre post (List.cons.inj (List.cons.inj e).2).2
    · rcases pre with _ | ⟨a, pre⟩
      · simp at e
      · exact ih pre post (List.cons.inj e).2

/-- Before a `STATE_CHANGE_IND` of `Shutdown` or `Reboot` comes `SAVE_DATA_IND`. -/
theorem Told.saveData_before {direct : Bool} {x y : DsmeState} {os : List Out}
    (h : Told direct x os y) :
    ∀ pre z post, os = pre ++ .broadcast (.stateChangeInd z) :: post → IsDown z →
      pre.getLast? = some (.broadcast .saveDataInd) := by
  have extend : ∀ {a : Out} {pre : List Out}, pre.getLast? = some (.broadcast .saveDataInd) →
      (a :: pre).getLast? = some (.broadcast .saveDataInd) := fun h => by
    simp [List.getLast?_cons, h]
  induction h with
  | nil => intro pre z post e; simp at e
  | quiet ho _ _ ih =>
    intro pre z post e hz
    rcases pre with _ | ⟨a, pre⟩
    · rw [(List.cons.inj e).1] at ho; cases ho
    · exact extend (ih pre z post (List.cons.inj e).2 hz)
  | @change _ _ n _ _ _ ih =>
    intro pre z post e hz
    unfold announce at e
    split at e
    · rcases pre with _ | ⟨a, _ | ⟨b, pre⟩⟩
      · simp at e
      · obtain ⟨rfl, -⟩ := List.cons.inj e
        rfl
      · exact extend (extend (ih pre z post (List.cons.inj (List.cons.inj e).2).2 hz))
    · rcases pre with _ | ⟨a, pre⟩
      · simp only [List.nil_append, List.singleton_append, List.cons.injEq, Out.broadcast.injEq,
          Msg.stateChangeInd.injEq] at e
        exact absurd (e.1 ▸ hz) ‹_›
      · exact extend (ih pre z post (List.cons.inj e).2 hz)

/-- **Every announced state change is a move of the state graph**: in every
reachable state, each `STATE_CHANGE_IND` the module has broadcast names a
state other than the one announced before it (the first: other than
`NOT_SET`).  It is `Shutdown` or `Reboot`; or `User`, `Actdead` or `Test`
as the first announcement; or, in direct mode only, `User` right after
`Actdead` or `Actdead` right after `User`. -/
theorem Reachable.announcements_follow_graph {cfg : Config} {s : State} (h : Reachable cfg s) :
    (s.outbox.filterMap Out.announced?).Chain (Edge cfg.direct) .notSet :=
  h.told.announcements

/-- Booting into `User`, then a shutdown request: `User`, then `Shutdown`. -/
theorem announcements_follow_graph_on_shutdown :
    ((bootRun (Config.plain false) [.shutdownReq .root]).outbox.filterMap Out.announced?).Chain
      (Edge (Config.plain false).direct) .notSet :=
  Reachable.announcements_follow_graph ((Reachable.init none false).run _)

/-- **A state query answers the state announced last**: in every reachable
state the module answers `STATE_QUERY` by sending the asker `STATE_CHANGE_IND`
of the state the last broadcast `STATE_CHANGE_IND` announced, or of `NOT_SET`
when it has broadcast none. -/
theorem Reachable.stateQuery_answers_last_announced {cfg : Config} {s : State}
    (h : Reachable cfg s) :
    (Dsme.step cfg s .stateQuery).outbox = s.outbox ++
      [.send (.stateChangeInd ((s.outbox.filterMap Out.announced?).getLast?.getD .notSet))] := by
  rw [h.told.last]
  rfl

/-- After the shutdown request the answer is `Shutdown`. -/
theorem stateQuery_answers_last_announced_on_shutdown :
    (Dsme.step (Config.plain false) (bootRun (Config.plain false) [.shutdownReq .root])
      .stateQuery).outbox = (bootRun (Config.plain false) [.shutdownReq .root]).outbox ++
      [.send (.stateChangeInd (((bootRun (Config.plain false) [.shutdownReq .root]).outbox.filterMap
        Out.announced?).getLast?.getD .notSet))] :=
  Reachable.stateQuery_answers_last_announced ((Reachable.init none false).run _)

/-- **`SAVE_DATA_IND` goes with the way down and nothing else**: in every
reachable state, each `SAVE_DATA_IND` the module has broadcast is followed at
once by a `STATE_CHANGE_IND` of `Shutdown` or `Reboot`, and each such
`STATE_CHANGE_IND` comes right after a `SAVE_DATA_IND`. -/
theorem Reachable.saveData_pairs_with_down {cfg : Config} {s : State} (h : Reachable cfg s) :
    (∀ pre post, s.outbox = pre ++ .broadcast .saveDataInd :: post →
      ∃ z, IsDown z ∧ post.head? = some (.broadcast (.stateChangeInd z))) ∧
    (∀ pre z post, s.outbox = pre ++ .broadcast (.stateChangeInd z) :: post → IsDown z →
      pre.getLast? = some (.broadcast .saveDataInd)) :=
  ⟨h.told.saveData_next, h.told.saveData_before⟩

/-- The same shutdown request: `SAVE_DATA_IND`, then `STATE_CHANGE_IND(SHUTDOWN)`. -/
theorem saveData_pairs_with_down_on_shutdown :
    (∀ pre post, (bootRun (Config.plain false) [.shutdownReq .root]).outbox =
        pre ++ .broadcast .saveDataInd :: post →
      ∃ z, IsDown z ∧ post.head? = some (.broadcast (.stateChangeInd z))) ∧
    (∀ pre z post, (bootRun (Config.plain false) [.shutdownReq .root]).outbox =
        pre ++ .broadcast (.stateChangeInd z) :: post → IsDown z →
      pre.getLast? = some (.broadcast .saveDataInd)) :=
  Reachable.saveData_pairs_with_down ((Reachable.init none false).run _)

end Dsme

/-
# The engine invariant and the transition controller

`Inv` is what holds between any two events.  Besides timer hygiene
(`Dsme.Hygiene`) and the broadcast history (`Dsme.Announce`) it says

* `DelayAgreement`: an armed shutdown-delay timer means `current_state` is
  `Shutdown` or `Reboot` and the other two delay timers are idle; an armed
  actdead-delay (user-delay) timer means `Actdead` (`User`);
* `Frozen`: during an emergency call no delay timer is armed;
* `Latched`: outside an emergency call an overheated device or an empty
  battery means `current_state` is `Shutdown`.

`try_to_change_state` is only reached from `change_state_if_necessary`, with
a state the policy selected and that differs from `current_state`, so never
during an emergency call.  Under that precondition it keeps the first four
(`tryToChangeState_core`), and `change_state_if_necessary` then establishes
the latch as well (`changeStateIfNecessary_inv`): whenever the latch selects
`Shutdown`, `try_to_change_state` sets it.  Neither touches the emergency bit,
the two latches or the three input timers (`Keeps`).
-/

import Dsme.Announce

namespace Dsme

/-- **The delay timers agree with the announced state.** -/
structure DelayAgreement (s : State) : Prop where
  shutdown : s.handle .delayedShutdown ≠ 0 →
    (s.currentState = .shutdown ∨ s.currentState = .reboot) ∧
      s.handle .delayedActdead = 0 ∧ s.handle .delayedUser = 0
  actdead : s.handle .delayedActdead ≠ 0 → s.currentState = .actdead
  user : s.handle .delayedUser ≠ 0 → s.currentState = .user

/-- During an emergency call no delay timer is armed. -/
def Frozen (s : State) : Prop :=
  s.emergencyCallOngoing = true →
    s.handle .delayedShutdown = 0 ∧ s.handle .delayedActdead = 0 ∧ s.handle .delayedUser = 0

/-- Outside an emergency call the thermal and battery-empty latches mean `Shutdown`. -/
def Latched (s : State) : Prop :=
  (s.deviceOverheated || s.batteryEmpty) = true → s.emergencyCallOngoing = false →
    s.currentState = .shutdown

/-- The invariant without the latch: what `change_state_if_necessary` needs. -/
structure Core (s : State) : Prop where
  hyg : Hygienic s
  delay : DelayAgreement s
  frozen : Frozen s
  announced : Announced s

/-- **The engine invariant.** -/
structure Inv (s : State) extends Core s : Prop where
  latched : Latched s

/-- What the transition controller leaves alone. -/
structure Keeps (s s' : State) : Prop where
  emergency : s'.emergencyCallOngoing = s.emergencyCallOngoing
  overheated : s'.deviceOverheated = s.deviceOverheated
  empty : s'.batteryEmpty = s.batteryEmpty
  inputTimer : ∀ k, ¬ k.IsDelay → s'.handle k = s.handle k

theorem Keeps.refl (s : State) : Keeps s s := ⟨rfl, rfl, rfl, fun _ _ => rfl⟩

theorem Keeps.trans {s₁ s₂ s₃ : State} (h₁ : Keeps s₁ s₂) (h₂ : Keeps s₂ s₃) : Keeps s₁ s₃ :=
  ⟨h₂.emergency.trans h₁.emergency, h₂.overheated.trans h₁.overheated,
    h₂.empty.trans h₁.empty, fun k hk => (h₂.inputTimer k hk).trans (h₁.inputTimer k hk)⟩

variable {s : State} {cfg : Config}

theorem DelayAgreement.of_idle (h₁ : s.handle .delayedShutdown = 0)
    (h₂ : s.handle .delayedActdead = 0) (h₃ : s.handle .delayedUser = 0) : DelayAgreement s :=
  ⟨fun h => absurd h₁ h, fun h => absurd h₂ h, fun h => absurd h₃ h⟩

/-- Before the first announcement no delay timer is armed. -/
theorem DelayAgreement.idle_of_notSet (h : DelayAgreement s) (hn : s.currentState = .notSet) :
    s.handle .delayedShutdown = 0 ∧ s.handle .delayedActdead = 0 ∧ s.handle .delayedUser = 0 := by
  refine ⟨?_, ?_, ?_⟩ <;> by_contra hk
  · rcases (h.shutdown hk).1 with e | e <;> rw [hn] at e <;> cases e
  · have := h.actdead hk; rw [hn] at this; cases this
  · have := h.user hk; rw [hn] at this; cases this

theorem frozen_of_not_emergency (he : s.emergencyCallOngoing = false) : Frozen s :=
  fun h => absurd (he.symm.trans h) (by decide)

/-- Besides hygiene and the history, the invariant's core reads only the
handles of the delay timers, `current_state` and the emergency bit. -/
theorem Core.congr {s' : State} (h : Core s) (hh : Hygienic s')
    (hd : ∀ k, k.IsDelay → s'.handle k = s.handle k) (hc : s'.currentState = s.currentState)
    (ha : Announced s') (he : s'.emergencyCallOngoing = s.emergencyCallOngoing) : Core s' := by
  have h₁ := hd .delayedShutdown (by simp [TimerKind.IsDelay])
  have h₂ := hd .delayedActdead (by simp [TimerKind.IsDelay])
  have h₃ := hd .delayedUser (by simp [TimerKind.IsDelay])
  obtain ⟨-, ⟨d₁, d₂, d₃⟩, hf, -⟩ := h
  refine ⟨hh, ⟨?_, ?_, ?_⟩, ?_, ha⟩
  · rw [h₁, h₂, h₃, hc]; exact d₁
  · rw [h₂, hc]; exact d₂
  · rw [h₃, hc]; exact d₃
  · rw [Frozen, he, h₁, h₂, h₃]; exact hf

/-- The latch reads the two latches, the emergency bit and `current_state`. -/
theorem Inv.congr {s' : State} (h : Inv s) (hc : Core s') (hs : s'.currentState = s.currentState)
    (he : s'.emergencyCallOngoing = s.emergencyCallOngoing)
    (hov : s'.deviceOverheated = s.deviceOverheated) (hem : s'.batteryEmpty = s.batteryEmpty) :
    Inv s' :=
  ⟨hc, by unfold Latched; rw [hov, hem, he, hs]; exact h.latched⟩

/-- An operation that keeps every field the invariant's core reads keeps it. -/
theorem Core.of_eq {s' : State} (h : Core s) (hh : s'.handle = s.handle)
    (ht : s'.timers = s.timers) (hc : s'.currentState = s.currentState)
    (ho : s'.outbox = s.outbox) (he : s'.emergencyCallOngoing = s.emergencyCallOngoing) :
    Core s' :=
  h.congr (h.hyg.congr hh ht) (fun k _ => congrFun hh k) hc (h.announced.congr hc ho) he

/-- An operation that keeps every field the invariant reads keeps it. -/
theorem Inv.of_eq {s' : State} (h : Inv s) (hh : s'.handle = s.handle)
    (ht : s'.timers = s.timers) (hc : s'.currentState = s.currentState)
    (ho : s'.outbox = s.outbox) (he : s'.emergencyCallOngoing = s.emergencyCallOngoing)
    (hov : s'.deviceOverheated = s.deviceOverheated) (hem : s'.batteryEmpty = s.batteryEmpty) :
    Inv s' :=
  h.congr (h.toCore.of_eq hh ht hc ho he) hc he hov hem

theorem Core.of_same {s' : State} (h : Core s) (e : SameCore s s') : Core s' :=
  h.of_eq e.handle e.timers e.currentState e.outbox e.emergency

/-- `stop_delayed_runlevel_timers` idles all three delay timers. -/
theorem stopDelayedRunlevelTimers_core (hh : Hygienic s) (ha : Announced s) :
    Core (stopDelayedRunlevelTimers s) := by
  have hs : Hygienic (stopDelayedRunlevelTimers s) :=
    ((hh.stopTimer _).stopTimer _).stopTimer _
  have hz : ∀ k, k.IsDelay → (stopDelayedRunlevelTimers s).handle k = 0 := by
    rintro k (rfl | rfl | rfl) <;> simp [stopDelayedRunlevelTimers, Function.update_apply]
  refine ⟨hs, .of_idle (hz _ (.inl rfl)) (hz _ (.inr (.inl rfl))) (hz _ (.inr (.inr rfl))),
    fun _ => ⟨hz _ (.inl rfl), hz _ (.inr (.inl rfl)), hz _ (.inr (.inr rfl))⟩,
    ha.congr (by simp [stopDelayedRunlevelTimers]) (by simp [stopDelayedRunlevelTimers])⟩

theorem stopDelayedRunlevelTimers_keeps : Keeps s (stopDelayedRunlevelTimers s) := by
  refine ⟨by simp [stopDelayedRunlevelTimers], by simp [stopDelayedRunlevelTimers],
    by simp [stopDelayedRunlevelTimers], fun k hk => ?_⟩
  simp only [stopDelayedRunlevelTimers, State.stopTimer_handle]
  rw [Function.update_noteq, Function.update_noteq, Function.update_noteq] <;>
    rintro rfl <;> simp [TimerKind.IsDelay] at hk

theorem createTimer_keeps {k : TimerKind} (hk : k.IsDelay) (sec : Nat) :
    Keeps s (s.createTimer cfg k sec) :=
  ⟨rfl, rfl, rfl, fun j hj => Function.update_noteq (by rintro rfl; exact hj hk) _ _⟩

theorem Keeps.quitIfIdle (k : TimerKind) : Keeps s (s.quitIfIdle k) :=
  ⟨rfl, rfl, rfl, fun _ _ => rfl⟩

theorem changeState_keeps (new : DsmeState) : Keeps s (changeState new s) :=
  ⟨rfl, rfl, rfl, fun _ _ => rfl⟩

theorem Core.quitIfIdle (h : Core s) (k : TimerKind) : Core (s.quitIfIdle k) :=
  h.of_eq rfl rfl rfl rfl rfl

theorem startDelayedShutdownTimer_keeps (sec : Nat) :
    Keeps s (startDelayedShutdownTimer cfg sec s) := by
  unfold startDelayedShutdownTimer
  split
  · exact (stopDelayedRunlevelTimers_keeps.trans (createTimer_keeps (.inl rfl) sec)).trans
      (.quitIfIdle _)
  · exact .refl s

theorem startDelayedShutdownTimer_currentState (sec : Nat) :
    (startDelayedShutdownTimer cfg sec s).currentState = s.currentState := by
  unfold startDelayedShutdownTimer
  split
  · simp only [State.quitIfIdle, State.createTimer, stopDelayedRunlevelTimers, State.stopTimer]
  · rfl

/-- `change_state` with every delay timer idle. -/
theorem changeState_core_of_idle (hc : Core s) (he : s.emergencyCallOngoing = false)
    (h : s.handle .delayedShutdown = 0 ∧ s.handle .delayedActdead = 0 ∧ s.handle .delayedUser = 0)
    (new : DsmeState) : Core (changeState new s) :=
  ⟨hc.hyg.congr rfl rfl, .of_idle h.1 h.2.1 h.2.2, frozen_of_not_emergency he,
    hc.announced.changeState new⟩

/-- **The way down keeps the invariant's core**: `change_state` to
`Shutdown` or `Reboot`, then the shutdown-delay timer, which stops the other
two delay timers unless it was armed already. -/
theorem changeStateAndShutdown_core (hc : Core s) (he : s.emergencyCallOngoing = false)
    {n : DsmeState} (hn : n = .shutdown ∨ n = .reboot) :
    Core (changeStateAndShutdown cfg n s) := by
  have ha := hc.announced.changeState n
  unfold changeStateAndShutdown startDelayedShutdownTimer
  split
  · have hstop := stopDelayedRunlevelTimers_core (hc.hyg.congr rfl rfl : Hygienic (changeState n s)) ha
    refine Core.quitIfIdle ⟨hstop.hyg.createTimer (by simp [stopDelayedRunlevelTimers]) cfg _,
      ⟨fun _ => ?_, fun h => absurd ?_ h, fun h => absurd ?_ h⟩,
      frozen_of_not_emergency (by simp [stopDelayedRunlevelTimers, he]),
      hstop.announced.congr (by simp) (by simp)⟩ _ <;>
      simp [stopDelayedRunlevelTimers, Function.update_apply, hn]
  · rename_i h0
    rw [changeState_handle] at h0
    obtain ⟨-, h₂, h₃⟩ := hc.delay.shutdown h0
    exact ⟨hc.hyg.congr rfl rfl, ⟨fun _ => ⟨hn, h₂, h₃⟩, fun h => absurd h₂ h, fun h => absurd h₃ h⟩,
      frozen_of_not_emergency he, ha⟩

theorem changeStateAndShutdown_keeps (n : DsmeState) : Keeps s (changeStateAndShutdown cfg n s) :=
  (changeState_keeps n).trans (startDelayedShutdownTimer_keeps _)

theorem changeStateAndShutdown_currentState (n : DsmeState) :
    (changeStateAndShutdown cfg n s).currentState = n :=
  startDelayedShutdownTimer_currentState _

/-- **A direct-mode delay timer keeps the invariant's core**: it starts only
with all three delay timers idle, and `change_state` follows only if it started. -/
theorem changeStateIfStarted_core (hc : Core s) (he : s.emergencyCallOngoing = false)
    {k : TimerKind} {new : DsmeState}
    (hk : (k = .delayedActdead ∧ new = .actdead) ∨ (k = .delayedUser ∧ new = .user))
    (sec : Nat) : Core (changeStateIfStarted (startDelayedRunlevelTimer k cfg sec s) new) := by
  unfold changeStateIfStarted startDelayedRunlevelTimer
  split
  · rename_i hidle
    obtain ⟨h₁, h₂, h₃⟩ := hidle
    have hk0 : s.handle k = 0 := by rcases hk with ⟨rfl, -⟩ | ⟨rfl, -⟩ <;> assumption
    have hy : Hygienic ((s.createTimer cfg k sec).quitIfIdle k) :=
      (hc.hyg.createTimer hk0 cfg sec).congr rfl rfl
    have ha : Announced ((s.createTimer cfg k sec).quitIfIdle k) :=
      hc.announced.congr (by simp) (by simp)
    have hf := frozen_of_not_emergency (s := (s.createTimer cfg k sec).quitIfIdle k) (by simp [he])
    simp only [State.started, bne_iff_ne, ne_eq, decide_eq_true_eq]
    split
    · rename_i hz
      refine ⟨hy.congr rfl rfl, ⟨fun h => ?_, fun h => ?_, fun h => ?_⟩, hf, ha.changeState new⟩ <;>
        rcases hk with ⟨rfl, rfl⟩ | ⟨rfl, rfl⟩ <;> simp_all [Function.update_apply]
    · rename_i hz
      refine ⟨hy, .of_idle ?_ ?_ ?_, hf, ha⟩ <;>
        rcases hk with ⟨rfl, -⟩ | ⟨rfl, -⟩ <;> simp_all [Function.update_apply]
  · exact hc

theorem changeStateIfStarted_keeps {k : TimerKind} (hk : k.IsDelay) (sec : Nat)
    (new : DsmeState) :
    Keeps s (changeStateIfStarted (startDelayedRunlevelTimer k cfg sec s) new) := by
  unfold changeStateIfStarted startDelayedRunlevelTimer
  split
  · simp only [State.started]
    split
    · exact (createTimer_keeps hk sec).trans (.quitIfIdle k) |>.trans (changeState_keeps new)
    · exact (createTimer_keeps hk sec).trans (.quitIfIdle k)
  · exact .refl s

/-- **`try_to_change_state` keeps the invariant's core** when it is asked, as
`change_state_if_necessary` asks it, for a state other than the current one
outside an emergency call. -/
theorem tryToChangeState_core (hc : Core s) (he : s.emergencyCallOngoing = false)
    {new : DsmeState} (hn : new ≠ s.currentState) : Core (tryToChangeState cfg new s) := by
  have hr := tryToChangeState_result cfg new s
  generalize tryToChangeState cfg new s = r at hr ⊢
  cases hr with
  | unchanged => exact hc
  | lowBattery => exact hc.of_eq rfl rfl rfl rfl rfl
  | first h₀ => exact changeState_core_of_idle hc he (hc.delay.idle_of_notSet h₀) _
  | down hd hb => exact changeStateAndShutdown_core (hc.of_same hb.toSameCore) (hb.emergency.trans he) hd
  | delayed hk hnew hb =>
    refine changeStateIfStarted_core (hc.of_same hb.toSameCore) (hb.emergency.trans he) ?_ _
    rcases hk with ⟨rfl, hcur⟩ | ⟨rfl, hcur⟩ <;> rcases hnew with rfl | rfl
    · exact .inr ⟨rfl, rfl⟩
    · exact absurd hcur.symm hn
    · exact absurd hcur.symm hn
    · exact .inl ⟨rfl, rfl⟩

/-- `try_to_change_state` leaves the emergency bit, the latches and the input
timers alone. -/
theorem tryToChangeState_keeps (new : DsmeState) : Keeps s (tryToChangeState cfg new s) := by
  have bits : ∀ {s'}, BitsOnly s s' → Keeps s s' := fun hb =>
    ⟨hb.emergency, hb.overheated, hb.empty, fun _ _ => by rw [hb.handle]⟩
  have hr := tryToChangeState_result cfg new s
  generalize tryToChangeState cfg new s = r at hr ⊢
  cases hr with
  | unchanged => exact .refl s
  | lowBattery => exact ⟨rfl, rfl, rfl, fun _ _ => rfl⟩
  | first _ => exact changeState_keeps new
  | down _ hb => exact (bits hb).trans (changeStateAndShutdown_keeps _)
  | delayed hk _ hb =>
    refine (bits hb).trans (changeStateIfStarted_keeps ?_ _ _)
    rcases hk with ⟨rfl, -⟩ | ⟨rfl, -⟩
    exacts [.inr (.inr rfl), .inr (.inl rfl)]

/-- `try_to_change_state` to `Shutdown` sets it. -/
theorem tryToChangeState_shutdown : (tryToChangeState cfg .shutdown s).currentState = .shutdown :=
  changeStateAndShutdown_currentState _

/-- **`change_state_if_necessary` establishes the invariant** from its core:
the latch holds afterwards whatever held before. -/
theorem changeStateIfNecessary_inv (hc : Core s) : Inv (changeStateIfNecessary cfg s) := by
  unfold changeStateIfNecessary
  split
  · rename_i h
    exact ⟨hc, fun hl he => h.trans (selectState_of_latch he hl)⟩
  · rename_i h
    have he : s.emergencyCallOngoing = false := by
      cases e : s.emergencyCallOngoing
      · rfl
      · exact absurd (selectState_of_emergency e).symm h
    refine ⟨tryToChangeState_core hc he (Ne.symm h), fun hl _ => ?_⟩
    have k : Keeps s (tryToChangeState cfg (selectState cfg s) s) := tryToChangeState_keeps _
    rw [k.overheated, k.empty] at hl
    rw [selectState_of_latch he hl]
    exact tryToChangeState_shutdown

theorem changeStateIfNecessary_keeps : Keeps s (changeStateIfNecessary cfg s) := by
  unfold changeStateIfNecessary
  split
  · exact .refl s
  · exact tryToChangeState_keeps _

end Dsme

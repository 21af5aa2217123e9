/-
# Timer-handle hygiene

The six `dsme_timer_t` statics of `state.c` are only ever written in two
ways: a creation stores the new handle into a variable that holds `0`, and a
stop, a callback or a fire-now path sets it back to `0` while the handle
stops being live.  `Hygienic` says what that keeps true of the timer service:
every live handle is held by the variable of the callback it was created
with, every non-zero variable holds a live handle of its own kind, no handle
was ever destroyed twice, and handles still to be handed out are fresh.

`Hygienic.createTimer`, `Hygienic.stopTimer` and `Hygienic.clear` are the
three operations; the engine invariant (`Dsme.Invariant`) composes them.
-/

import Dsme.Boot

namespace Dsme

/-- **Timer-handle hygiene**: the timer service and the six handle variables agree. -/
structure Hygienic (s : State) : Prop where
  nextPos : 0 < s.timers.next
  fresh : ∀ h, s.timers.next ≤ h → s.timers.live h = none
  zero : s.timers.live 0 = none
  held : ∀ k, s.handle k ≠ 0 → ∃ sec, s.timers.live (s.handle k) = some ⟨sec, k⟩
  owned : ∀ h sch, s.timers.live h = some sch → s.handle sch.callback = h
  noStray : s.timers.strayDestroy = false

namespace Hygienic

variable {s : State}

/-- Hygiene reads only the handles and the timer service. -/
theorem congr {s' : State} (h : Hygienic s) (hh : s'.handle = s.handle)
    (ht : s'.timers = s.timers) : Hygienic s' := by
  obtain ⟨h1, h2, h3, h4, h5, h6⟩ := h
  exact ⟨ht ▸ h1, ht ▸ h2, ht ▸ h3, hh ▸ ht ▸ h4, hh ▸ ht ▸ h5, ht ▸ h6⟩

/-- A live handle is non-zero. -/
theorem ne_zero_of_live (h : Hygienic s) {x : Nat} {sch : Scheduled}
    (hx : s.timers.live x = some sch) : x ≠ 0 := by
  rintro rfl; simp [h.zero] at hx

/-- Two variables never hold the same live handle. -/
theorem handle_inj (h : Hygienic s) {j k : TimerKind} (hk : s.handle k ≠ 0)
    (hjk : s.handle j = s.handle k) : j = k := by
  obtain ⟨sec, hs⟩ := h.held k hk
  have := h.owned _ _ (hjk ▸ hs)
  obtain ⟨sec', hs'⟩ := h.held j (hjk ▸ hk)
  rw [hjk, hs] at hs'
  cases hs'
  rfl

/-- Storing a fresh handle in an empty variable keeps hygiene. -/
theorem install (h : Hygienic s) {k : TimerKind} (hk : s.handle k = 0) {t : TimerService}
    (sec : Nat) (hl : t.live = Function.update s.timers.live s.timers.next (some ⟨sec, k⟩))
    (hn : t.next = s.timers.next + 1) (hs : t.strayDestroy = false) :
    Hygienic { s with timers := t, handle := Function.update s.handle k s.timers.next } := by
  have hnext : s.timers.live s.timers.next = none := h.fresh _ (Nat.le_refl _)
  have hpos := h.nextPos
  refine ⟨by dsimp only; omega, fun x hx => ?_, ?_, fun j hj => ?_, fun x sch hx => ?_, hs⟩
  · dsimp only at hx ⊢
    rw [hl, Function.update_noteq (by omega), h.fresh x (by omega)]
  · dsimp only
    rw [hl, Function.update_noteq (by omega), h.zero]
  · dsimp only at hj ⊢
    by_cases e : j = k
    · subst e; simp [hl]
    · rw [Function.update_noteq e] at hj ⊢
      obtain ⟨sec', hsch⟩ := h.held j hj
      have : s.handle j ≠ s.timers.next := fun he => by simp [he, hnext] at hsch
      exact ⟨sec', by rw [hl, Function.update_noteq this, hsch]⟩
  · dsimp only at hx ⊢
    rw [hl] at hx
    by_cases e : x = s.timers.next
    · subst e; simp at hx; subst hx; simp
    · rw [Function.update_noteq e] at hx
      have ho := h.owned x sch hx
      by_cases e' : sch.callback = k
      · rw [e', hk] at ho; exact absurd ho.symm (h.ne_zero_of_live hx)
      · rw [Function.update_noteq e', ho]

/-- **Creating a timer into an empty variable keeps hygiene**, whether the
creation succeeds or not. -/
theorem createTimer (h : Hygienic s) {k : TimerKind} (hk : s.handle k = 0) (cfg : Config)
    (sec : Nat) : Hygienic (s.createTimer cfg k sec) := by
  unfold State.createTimer TimerService.create
  split
  · exact h.install hk sec rfl rfl h.noStray
  · have e : Function.update s.handle k 0 = s.handle := by rw [← hk, Function.update_eq_self]
    exact ⟨by simp, fun x hx => h.fresh x (by simp only at hx; omega), h.zero,
      by simpa only [e] using h.held, by simpa only [e] using h.owned, h.noStray⟩

/-- **Clearing a held handle keeps hygiene**: the variable becomes `0` and the
handle stops being live. -/
theorem clear (h : Hygienic s) {k : TimerKind} (hk : s.handle k ≠ 0) {t : TimerService}
    (hl : t.live = Function.update s.timers.live (s.handle k) none)
    (hn : t.next = s.timers.next) (hs : t.strayDestroy = false) :
    Hygienic { s with timers := t, handle := Function.update s.handle k 0 } := by
  refine ⟨hn ▸ h.nextPos, fun x hx => ?_, by simp [hl, Function.update_apply, h.zero],
    fun j hj => ?_, fun x sch hx => ?_, hs⟩
  · dsimp only at hx ⊢
    rw [hl]
    by_cases e : x = s.handle k
    · rw [e, Function.update_same]
    · rw [Function.update_noteq e, h.fresh x (hn ▸ hx)]
  · dsimp only at hj ⊢
    by_cases e : j = k
    · subst e; simp at hj
    · rw [Function.update_noteq e] at hj ⊢
      obtain ⟨sec, hsch⟩ := h.held j hj
      have : s.handle j ≠ s.handle k := fun he => e (h.handle_inj hk he)
      exact ⟨sec, by rw [hl, Function.update_noteq this, hsch]⟩
  · dsimp only at hx ⊢
    rw [hl] at hx
    by_cases e : x = s.handle k
    · rw [e, Function.update_same] at hx; cases hx
    · rw [Function.update_noteq e] at hx
      have ho := h.owned x sch hx
      by_cases e' : sch.callback = k
      · rw [e'] at ho; exact absurd ho.symm e
      · rw [Function.update_noteq e', ho]

/-- **Stopping a timer keeps hygiene**: `dsme_destroy_timer` only ever sees a live handle. -/
theorem stopTimer (h : Hygienic s) (k : TimerKind) : Hygienic (s.stopTimer k) := by
  by_cases hk : s.handle k = 0
  · refine h.congr ?_ (by simp [State.stopTimer, hk])
    rw [State.stopTimer, ← hk, Function.update_eq_self]
  · obtain ⟨sec, hsch⟩ := h.held k hk
    exact h.clear hk (by simp [State.stopTimer, hk, TimerService.destroy]) (by simp [State.stopTimer, hk, TimerService.destroy])
      (by simp [State.stopTimer, TimerService.destroy, hk, h.noStray, hsch])

end Hygienic

end Dsme

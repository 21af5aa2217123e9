/-
# What the broadcast history says

Every message the module sends is in `State.outbox`, oldest first.  This file
reads two things off that history: the state the last broadcast
`STATE_CHANGE_IND` announced (`lastAnnounced`), and whether every `SHUTDOWN`
and `CHANGE_RUNLEVEL` message carried the runlevel that the spec's table
(Shutdown 0, Actdead 4, User 5, Reboot 6) gives the state announced last
before it (`RunlevelsAgree`).

`Announced` ties the history to the state: `current_state` is the state
announced last, and the runlevels agree so far.  `change_state`, messages
that are neither announcements nor runlevel messages, and a runlevel message
for the current state keep it (`Announced.changeState`, `Announced.emit`).
-/

import Dsme.Hygiene

namespace Dsme

/-- The runlevel the spec's table assigns to a device state. -/
def specRunlevel : DsmeState → Option Runlevel
  | .shutdown => some 0
  | .actdead => some 4
  | .user => some 5
  | .reboot => some 6
  | _ => none

/-- The state announced last in `os`, or `last` when `os` announces none. -/
def lastAnnouncedFrom (last : Option DsmeState) : List Out → Option DsmeState
  | [] => last
  | o :: os => lastAnnouncedFrom (o.announced?.or last) os

/-- The state announced last in a history. -/
def lastAnnounced (os : List Out) : Option DsmeState := lastAnnouncedFrom none os

/-- Every runlevel message of `os` carries the table's runlevel of the state
announced last before it, `last` standing for what came before `os`. -/
def RunlevelsAgreeFrom (last : Option DsmeState) : List Out → Prop
  | [] => True
  | o :: os => (∀ r, o.runlevel? = some r → last.bind specRunlevel = some r) ∧
      RunlevelsAgreeFrom (o.announced?.or last) os

/-- Every runlevel message of a history agrees with the announcement before it. -/
def RunlevelsAgree (os : List Out) : Prop := RunlevelsAgreeFrom none os

theorem lastAnnouncedFrom_append (last : Option DsmeState) (a b : List Out) :
    lastAnnouncedFrom last (a ++ b) = lastAnnouncedFrom (lastAnnouncedFrom last a) b := by
  induction a generalizing last with
  | nil => rfl
  | cons o a ih => exact ih _

theorem runlevelsAgreeFrom_append (last : Option DsmeState) (a b : List Out) :
    RunlevelsAgreeFrom last (a ++ b) ↔
      RunlevelsAgreeFrom last a ∧ RunlevelsAgreeFrom (lastAnnouncedFrom last a) b := by
  induction a generalizing last with
  | nil => simp [RunlevelsAgreeFrom, lastAnnouncedFrom]
  | cons o a ih => exact and_congr_right' (ih _) |>.trans and_assoc.symm

/-- **Read at any point of the history**: a runlevel message carries the
table's runlevel of the state announced last before it. -/
theorem RunlevelsAgree.at {os pre post : List Out} {o : Out} (h : RunlevelsAgree os)
    (hos : os = pre ++ o :: post) {r : Runlevel} (hr : o.runlevel? = some r) :
    ∃ x, lastAnnounced pre = some x ∧ specRunlevel x = some r := by
  rw [RunlevelsAgree, hos, runlevelsAgreeFrom_append] at h
  exact Option.bind_eq_some.1 (h.2.1 r hr)

theorem announce_lastAnnounced (last : Option DsmeState) (new : DsmeState) :
    lastAnnouncedFrom last (announce new) = some new := by
  unfold announce; split <;> rfl

theorem announce_agree (last : Option DsmeState) (new : DsmeState) :
    RunlevelsAgreeFrom last (announce new) := by
  unfold announce; split <;> simp [RunlevelsAgreeFrom, Out.runlevel?]

/-- `current_state` is the state announced last, and the runlevels agree. -/
structure Announced (s : State) : Prop where
  current : s.currentState = .notSet ∨ lastAnnounced s.outbox = some s.currentState
  agree : RunlevelsAgree s.outbox

namespace Announced

variable {s : State}

theorem congr {s' : State} (h : Announced s) (hc : s'.currentState = s.currentState)
    (ho : s'.outbox = s.outbox) : Announced s' := by
  obtain ⟨h1, h2⟩ := h
  exact ⟨hc ▸ ho ▸ h1, ho ▸ h2⟩

/-- `change_state` announces the state it sets. -/
theorem changeState (h : Announced s) (new : DsmeState) : Announced (changeState new s) := by
  refine ⟨.inr ?_, ?_⟩
  · simp only [Dsme.changeState, lastAnnounced, lastAnnouncedFrom_append, announce_lastAnnounced]
  · simp only [Dsme.changeState, RunlevelsAgree, runlevelsAgreeFrom_append]
    exact ⟨h.agree, announce_agree _ _⟩

/-- A message keeps the history consistent when it announces nothing and is
either no runlevel message or one for the current state. -/
theorem emit (h : Announced s) {o : Out} (ha : o.announced? = none)
    (hr : ∀ r, o.runlevel? = some r → specRunlevel s.currentState = some r) :
    Announced (s.emit o) := by
  have hlast : lastAnnounced (s.outbox ++ [o]) = lastAnnounced s.outbox := by
    simp [lastAnnounced, lastAnnouncedFrom_append, lastAnnouncedFrom, ha]
  refine ⟨by simpa [hlast] using h.current, ?_⟩
  simp only [State.emit_outbox, RunlevelsAgree, runlevelsAgreeFrom_append]
  refine ⟨h.agree, fun r hor => ?_, trivial⟩
  have hs := hr r hor
  rcases h.current with hn | hl
  · rw [hn] at hs; cases hs
  · rw [← lastAnnounced, hl]; exact hs

end Announced

end Dsme

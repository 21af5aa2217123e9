/-
# The MALF module: running `enter_malf`

`src/modules/malf.c` handles the `ENTER_MALF` message that the state module
broadcasts at start-up (lines 93-107).  Its `enter_malf` (lines 47-91) forks,
lets the child `execv` `/usr/sbin/enter_malf`, and waits for that child:

| step | on failure |
| --- | --- |
| `fork()` | quit DSME's main loop with `EXIT_FAILURE`, report failure |
| `wait(&status)` until it returns the child's pid | stop at `ECHILD`, report failure |
| `WEXITSTATUS(status) == 0` | report failure |

The handler asks the init module for `SHUTDOWN` at runlevel `0` directly
whenever `enter_malf` reports failure.

The parent's view is modelled.  `fork` fails or returns the child's pid.
Each `wait` reaps some child with a status, or fails, with or without
`ECHILD`.  The answers come as a list (`MalfRun`), and a handler that runs
out of them is still waiting.  What the child does when `execv` fails is left
out: it goes on as a copy of DSME.

`handleEnterMalf_enters_or_shuts_down`: the handler waits for ever exactly
when every `wait` reaps another child or fails without `ECHILD`.  When it
returns, it has entered MALF exactly when the forked child was the first
child reaped and exited with `0`; otherwise it asks for `SHUTDOWN`.
`bootstate_malf_runs_enter_malf`: `BOOTSTATE` = `MALF reason component
details` reaches `/usr/sbin/enter_malf` with those three words, through
`set_initial_state_bits`, `parse_malf_info`, the state module's `enter_malf`
and this handler.
-/

import Dsme.Malf

namespace Dsme

/-- Modelled from the spec: libdsme numbers `DSME_MALF_REASON` in the order of
`malf_reason_name`, `SOFTWARE` first. -/
def MalfReason.code : MalfReason → Int
  | .software => 0
  | .hardware => 1

/-- What one `wait(&status)` returned. -/
inductive WaitReturn
  /-- The pid of a child it reaped, with the status word it stored. -/
  | reaped (pid : Nat) (status : Int)
  /-- `-1`, with whether `errno` is `ECHILD`. -/
  | failed (echild : Bool)
  deriving DecidableEq, Repr

/-- What the system answers `enter_malf`: the pid `fork` returns to the parent
(`none` when it fails), and the returns of the `wait` calls, in order. -/
structure MalfRun where
  fork : Option Nat
  waits : List WaitReturn
  deriving DecidableEq, Repr

/-- What the MALF module does. -/
inductive MalfEffect
  /-- The child `execv`s `/usr/sbin/enter_malf` with this argument vector. -/
  | exec (argv : List (List Char))
  /-- `dsme_main_loop_quit(EXIT_FAILURE)`. -/
  | quit
  /-- `modules_broadcast_internally`. -/
  | broadcastInternally (msg : Msg)
  deriving DecidableEq, Repr

namespace Malf

/-- `malf_reason_name`. -/
def malfReasonName : List (List Char) :=
  ["SOFTWARE".toList, "HARDWARE".toList, "SECURITY".toList]

/-- `default_component`. -/
def defaultComponent : List Char := "(no component)".toList

/-- `WEXITSTATUS(status)`: bits 8 to 15 of the status word. -/
def wexitstatus (status : Int) : Int := status % 65536 / 256

/-- `while ((rc = wait(&status)) != pid) if (rc < 0 && errno == ECHILD) break;`
from the value `status` holds: `rc` and `status` once the loop stops, `none`
when the returns run out first. -/
def waitLoop (pid : Nat) (status : Int) : List WaitReturn → Option (Int × Int)
  | [] => none
  | .reaped rc st :: ws => if rc ≠ pid then waitLoop pid st ws else some (rc, st)
  | .failed echild :: ws => if echild then some (-1, status) else waitLoop pid status ws

/-- The argument vector of `execv`: it ends at the first null, so null details
leave three arguments.  The reason is range-checked first. -/
def args (reason : Int) (component : List Char) (details : Option (List Char)) :
    List (List Char) :=
  let reason := if reason < 0 ∨ malfReasonName.length ≤ reason then 0 else reason
  ["enter_malf".toList, malfReasonName.getD reason.toNat [], component] ++ details.toList

/-- `enter_malf`: what it does and whether it reports success; `none` while it
still waits for the child. -/
def enterMalf (run : MalfRun) (reason : Int) (component : List Char)
    (details : Option (List Char)) : Option (List MalfEffect × Bool) :=
  match run.fork with
  | none => some ([.quit], false)
  | some pid =>
    (waitLoop pid (-1) run.waits).map fun (rc, status) =>
      ([.exec (args reason component details)], rc = pid ∧ wexitstatus status = 0)

/-- `DSME_HANDLER(DSM_MSGTYPE_ENTER_MALF)`: on failure, `SHUTDOWN` at
`DSME_RUNLEVEL_SHUTDOWN` straight to the init module. -/
def handleEnterMalf (run : MalfRun) (reason : Int) (component details : Option (List Char)) :
    Option (List MalfEffect) :=
  (enterMalf run reason (component.getD defaultComponent) details).map fun (fx, ok) =>
    if ok then fx else fx ++ [.broadcastInternally (.shutdown Runlevel.shutdown)]

/-- The returns the loop goes past: another child reaped, or a failure other
than `ECHILD`. -/
def Passes (pid : Nat) : WaitReturn → Prop
  | .reaped rc _ => rc ≠ pid
  | .failed echild => echild = false

/-- MALF is entered: the fork succeeded, and the first return the loop does
not go past reaps the forked child with exit status `0`. -/
def Entered (run : MalfRun) : Prop :=
  ∃ pid pre st post, run.fork = some pid ∧ run.waits = pre ++ .reaped pid st :: post ∧
    (∀ w ∈ pre, Passes pid w) ∧ wexitstatus st = 0

theorem waitLoop_eq_none_iff (pid : Nat) (status : Int) (ws : List WaitReturn) :
    waitLoop pid status ws = none ↔ ∀ w ∈ ws, Passes pid w := by
  induction ws generalizing status with
  | nil => simp [waitLoop]
  | cons w ws ih =>
    cases w with
    | reaped rc st => by_cases h : rc = pid <;> simp [waitLoop, Passes, h, ih]
    | failed e => cases e <;> simp [waitLoop, Passes, ih]

/-- The loop stops at the forked child exactly when the first return it does
not go past reaps the child, with the status reaped then. -/
theorem waitLoop_eq_pid_iff (pid : Nat) (status st : Int) (ws : List WaitReturn) :
    waitLoop pid status ws = some ((pid : Int), st) ↔
      ∃ pre w post, ws = pre ++ w :: post ∧ (∀ x ∈ pre, Passes pid x) ∧ w = .reaped pid st := by
  induction ws generalizing status with
  | nil => simp [waitLoop]
  | cons w ws ih =>
    rw [exists_split_cons]
    cases w with
    | reaped rc st' => by_cases h : rc = pid <;> simp [waitLoop, Passes, h, ih]
    | failed e => cases e <;> simp [waitLoop, Passes, ih]

/-- With the fork done and the loop stopped, MALF is entered exactly when the
loop stopped at the child and its exit status is `0`. -/
theorem entered_iff {run : MalfRun} {pid : Nat} {rc status : Int} (hf : run.fork = some pid)
    (hw : waitLoop pid (-1) run.waits = some (rc, status)) :
    Entered run ↔ rc = pid ∧ wexitstatus status = 0 := by
  constructor
  · rintro ⟨pid', pre, st, post, hf', e, hp, hs⟩
    obtain rfl : pid' = pid := Option.some.inj (hf'.symm.trans hf)
    have hst := (waitLoop_eq_pid_iff pid' (-1) st run.waits).2 ⟨pre, _, post, e, hp, rfl⟩
    obtain ⟨rfl, rfl⟩ := Prod.mk.inj (Option.some.inj (hw.symm.trans hst))
    exact ⟨rfl, hs⟩
  · rintro ⟨rfl, hs⟩
    obtain ⟨pre, w, post, e, hp, rfl⟩ := (waitLoop_eq_pid_iff pid (-1) status run.waits).1 hw
    exact ⟨pid, pre, status, post, hf, e, hp, hs⟩

section Handler

variable {run : MalfRun} {reason : Int} {component details : Option (List Char)}

theorem handleEnterMalf_of_fork_failed (hf : run.fork = none) :
    handleEnterMalf run reason component details =
      some [.quit, .broadcastInternally (.shutdown Runlevel.shutdown)] := by
  simp [handleEnterMalf, enterMalf, hf]

theorem handleEnterMalf_of_waiting {pid : Nat} (hf : run.fork = some pid)
    (hw : waitLoop pid (-1) run.waits = none) : handleEnterMalf run reason component details = none := by
  simp [handleEnterMalf, enterMalf, hf, hw]

theorem handleEnterMalf_of_stopped {pid : Nat} {rc status : Int} (hf : run.fork = some pid)
    (hw : waitLoop pid (-1) run.waits = some (rc, status)) :
    handleEnterMalf run reason component details =
      some ([.exec (args reason (component.getD defaultComponent) details)] ++
        if rc = pid ∧ wexitstatus status = 0 then []
        else [.broadcastInternally (.shutdown Runlevel.shutdown)]) := by
  simp only [handleEnterMalf, enterMalf, hf, hw]
  split_ifs <;> simp_all

end Handler

/-- **The MALF handler enters MALF or asks for shutdown.**  For every outcome
of `fork` and every sequence of `wait` returns, the handler of `ENTER_MALF`
waits for ever exactly when the fork succeeded and every return reaps
another child or fails without `ECHILD`.  When it returns, it has run
`/usr/sbin/enter_malf` after a successful fork, and it has sent `SHUTDOWN` at
runlevel `0` exactly when MALF was not entered, after quitting the main loop
when the fork failed. -/
theorem handleEnterMalf_enters_or_shuts_down (run : MalfRun) (reason : Int)
    (component details : Option (List Char)) :
    (handleEnterMalf run reason component details = none ↔
      ∃ pid, run.fork = some pid ∧ ∀ w ∈ run.waits, Passes pid w) ∧
    ∀ fx, handleEnterMalf run reason component details = some fx →
      (Entered run ∧ fx = [.exec (args reason (component.getD defaultComponent) details)]) ∨
      (¬Entered run ∧ fx = (if run.fork = none then [.quit]
          else [.exec (args reason (component.getD defaultComponent) details)]) ++
        [.broadcastInternally (.shutdown Runlevel.shutdown)]) := by
  cases hf : run.fork with
  | none =>
    have hn : ¬Entered run := fun ⟨_, _, _, _, h, _⟩ => by simp [hf] at h
    simp [handleEnterMalf_of_fork_failed hf, hn]
  | some pid =>
    cases hw : waitLoop pid (-1) run.waits with
    | none =>
      simpa [handleEnterMalf_of_waiting hf hw] using (waitLoop_eq_none_iff pid (-1) run.waits).1 hw
    | some r =>
      obtain ⟨rc, status⟩ := r
      have hne : ¬(∀ w ∈ run.waits, Passes pid w) := fun h => by
        simp [(waitLoop_eq_none_iff pid (-1) run.waits).2 h] at hw
      rw [handleEnterMalf_of_stopped hf hw, entered_iff hf hw]
      by_cases hok : rc = pid ∧ wexitstatus status = 0 <;> simp [hok, hne, hf]

/-- The reason the state module's `enter_malf` stores is named back as
`HARDWARE` or `SOFTWARE`. -/
theorem args_code (reason : MalfReason) (component : List Char) (details : Option (List Char)) :
    args reason.code component details = ["enter_malf".toList,
      if reason = .hardware then "HARDWARE".toList else "SOFTWARE".toList, component] ++
      details.toList := by
  cases reason <;> rfl

end Malf

/-- The `ENTER_MALF` that `BOOTSTATE` = `MALF r c d` makes `module_init` send first. -/
theorem moduleInit_malf_head {r c d : List Char} (hr : r ≠ []) (hrs : ' ' ∉ r) (hc : c ≠ [])
    (hcs : ' ' ∉ c) (cfg : Config) (rdMode : Bool) :
    (moduleInit cfg (some ("MALF ".toList ++ (r ++ ' ' :: (c ++ ' ' :: d)))) rdMode).outbox.head? =
      some (.broadcastInternally (.enterMalf
        (some (if r = "HARDWARE".toList then .hardware else .software)) (some c)
        (if d = [] then none else some d))) := by
  have hw : r ++ ' ' :: (c ++ ' ' :: d) ≠ [] := by simp [hr]
  have hinfo : malfInfo rdMode ("MALF ".toList ++ (r ++ ' ' :: (c ++ ' ' :: d))) =
      some (r ++ ' ' :: (c ++ ' ' :: d)) := by
    rw [malfInfo, initialStateBits_malf]
    simp [hw]
  obtain ⟨new, hn⟩ := moduleInit_outbox cfg (some ("MALF ".toList ++ (r ++ ' ' :: (c ++ ' ' :: d))))
    rdMode
  rw [hn, Option.getD_some, setInitialStateBits_eq, hinfo]
  simp only [parseMalfInfo_fields hr hrs hc hcs, initialStateBits_malf]
  simp [enterMalf]

/-- **`BOOTSTATE` = `MALF reason component details` runs `enter_malf` with
them.**  For words `r` and `c` without spaces and any text `d`, in either R&D
mode and either build, the first message of `module_init` is `ENTER_MALF`
with the reason `HARDWARE` exactly when `r` is `HARDWARE`, the component `c`,
and the details `d` when `d` is not empty.  Whenever the fork succeeds and the
MALF module's handler returns, it has run `/usr/sbin/enter_malf` with
`HARDWARE` or `SOFTWARE`, then `c`, then `d` when it is not empty. -/
theorem bootstate_malf_runs_enter_malf {r c d : List Char} (hr : r ≠ []) (hrs : ' ' ∉ r)
    (hc : c ≠ []) (hcs : ' ' ∉ c) (cfg : Config) (rdMode : Bool) :
    (moduleInit cfg (some ("MALF ".toList ++ (r ++ ' ' :: (c ++ ' ' :: d)))) rdMode).outbox.head? =
      some (.broadcastInternally (.enterMalf
        (some (if r = "HARDWARE".toList then .hardware else .software)) (some c)
        (if d = [] then none else some d))) ∧
    ∀ (run : MalfRun) (fx : List MalfEffect), run.fork ≠ none →
      Malf.handleEnterMalf run (if r = "HARDWARE".toList then MalfReason.hardware else .software).code
        (some c) (if d = [] then none else some d) = some fx →
      fx.head? = some (.exec ("enter_malf".toList ::
        (if r = "HARDWARE".toList then "HARDWARE".toList else "SOFTWARE".toList) :: c ::
        (if d = [] then [] else [d]))) := by
  refine ⟨moduleInit_malf_head hr hrs hc hcs cfg rdMode, fun run fx hf h => ?_⟩
  obtain ⟨pid, hpid⟩ := Option.ne_none_iff_exists'.1 hf
  cases hw : Malf.waitLoop pid (-1) run.waits with
  | none => rw [Malf.handleEnterMalf_of_waiting hpid hw] at h; cases h
  | some _ =>
    rw [Malf.handleEnterMalf_of_stopped hpid hw] at h
    rw [← Option.some.inj h, Option.getD_some, Malf.args_code]
    by_cases hh : r = "HARDWARE".toList <;> by_cases hd : d = [] <;> simp [hh, hd]

/-- The bootloader reports a hardware fault of the battery. -/
theorem bootstate_malf_runs_enter_malf_battery :
    "HARDWARE".toList ≠ [] ∧ ' ' ∉ "HARDWARE".toList ∧ "battery".toList ≠ [] ∧
    ' ' ∉ "battery".toList ∧
    ((moduleInit (Config.plain false) (some ("MALF ".toList ++ ("HARDWARE".toList ++
        ' ' :: ("battery".toList ++ ' ' :: "too hot".toList)))) false).outbox.head? =
      some (.broadcastInternally (.enterMalf
        (some (if "HARDWARE".toList = "HARDWARE".toList then .hardware else .software))
        (some "battery".toList)
        (if "too hot".toList = [] then none else some "too hot".toList))) ∧
    ∀ (run : MalfRun) (fx : List MalfEffect), run.fork ≠ none →
      Malf.handleEnterMalf run
        (if "HARDWARE".toList = "HARDWARE".toList then MalfReason.hardware else .software).code
        (some "battery".toList) (if "too hot".toList = [] then none else some "too hot".toList) =
          some fx →
      fx.head? = some (.exec ("enter_malf".toList ::
        (if "HARDWARE".toList = "HARDWARE".toList then "HARDWARE".toList else "SOFTWARE".toList) ::
        "battery".toList :: (if "too hot".toList = [] then [] else ["too hot".toList])))) :=
  ⟨by decide, by decide, by decide, by decide,
    bootstate_malf_runs_enter_malf (by decide) (by decide) (by decide) (by decide)
      (Config.plain false) false⟩

end Dsme

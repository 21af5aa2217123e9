/-
# Start-up and reachable states

`module_init` of `src/modules/state.c` (lines 1474-1495) reads `BOOTSTATE`
(default `"USER"`), sets the initial bits in `set_initial_state_bits` (lines
1401-1471), possibly sends `ENTER_MALF` with the malfunction information that
`parse_malf_info` cuts out of the rest of the string with `strtok_r`, and runs
the policy once.  Strings are lists of characters, a C string without its
terminating NUL.  `module_fini` (lines 1496-1507) cancels the six timers.

`Reachable cfg` is every state `module_init` and any sequence of events lead
to, for any `BOOTSTATE` and either R&D mode setting.
-/

import Dsme.Handlers

namespace Dsme

/-- `DSME_SKIP_PREFIX(string, prefix)`: the text after the prefix, and after
one space that follows it; `none` when the string does not start with it. -/
def skipPrefix (string pfx : List Char) : Option (List Char) :=
  if pfx.isPrefixOf string then
    let rest := string.drop pfx.length
    some (if rest.head? = some ' ' then rest.tail else rest)
  else none

/-- `strtok_r`: the next token (none when only delimiters are left) and what
`*save_ptr` points to afterwards. -/
def strtokR (delim : Char → Bool) (s : List Char) : Option (List Char) × List Char :=
  let s := s.dropWhile delim
  if s = [] then (none, [])
  else (some (s.takeWhile fun c => !delim c), (s.dropWhile fun c => !delim c).drop 1)

/-- `parse_malf_info`: reason, component and details, each possibly null. -/
def parseMalfInfo (malfInfo : List Char) :
    Option (List Char) × Option (List Char) × Option (List Char) :=
  let space : Char → Bool := (· == ' ')
  match strtokR space malfInfo with
  | (none, _) => (none, none, none)
  | (some r, save) =>
    match strtokR space save with
    | (none, _) => (some r, none, none)
    | (some c, save) => (some r, some c, (strtokR (fun _ => false) save).1)

/-- `enter_malf`: `ENTER_MALF` with what it was handed. -/
def enterMalf (reason component details : Option (List Char)) (s : State) : State :=
  s.emit (.broadcastInternally (.enterMalf
    (reason.map fun r => if r = "HARDWARE".toList then .hardware else .software)
    component details))

/-- The bits `set_initial_state_bits` sets, the malfunction text it is left
with, and whether it must enter MALF. -/
def initialStateBits (bootstate : List Char) (s : State) : State × List Char × Bool :=
  if bootstate = "SHUTDOWN".toList then
    (((s.setChargerState .disconnected).setShutdownRequested true), [], false)
  else match skipPrefix bootstate "USER".toList with
  | some p => (s, p, false)
  | none => match skipPrefix bootstate "ACT_DEAD".toList with
    | some p => (s.setShutdownRequested true, p, false)
    | none =>
      if bootstate = "BOOT".toList then (s.setRebootRequested true, [], false)
      else if bootstate = "LOCAL".toList ∨ bootstate = "TEST".toList ∨
          bootstate = "FLASH".toList then (s.setTestmodeRequested true, [], false)
      else match skipPrefix bootstate "MALF".toList with
      | some p => (s, if p = [] then "SOFTWARE bootloader".toList else p, true)
      | none => (s, "SOFTWARE bootloader unknown bootreason to dsme".toList, false)

/-- `set_initial_state_bits`: `rdMode` is `dsme_rd_mode_enabled()`. -/
def setInitialStateBits (rdMode : Bool) (bootstate : List Char) (s : State) : State :=
  let (s, p, mustMalf) := initialStateBits bootstate s
  if p ≠ [] ∧ (mustMalf ∨ !rdMode) then
    let (reason, component, details) := parseMalfInfo p
    enterMalf reason component details s
  else s

/-- `module_init`: `bootstate` is `getenv("BOOTSTATE")`. -/
def moduleInit (cfg : Config) (bootstate : Option (List Char)) (rdMode : Bool) : State :=
  changeStateIfNecessary cfg (setInitialStateBits rdMode (bootstate.getD "USER".toList) {})

/-- `module_fini`: the three delay timers, then the charger-disconnect,
overheat and battery-empty timers.  Unbinding the D-Bus signals and the
vibra feedback are left out. -/
def moduleFini (s : State) : State :=
  stopBatteryEmptyTimer (stopOverheatTimer (stopChargerDisconnectTimer (stopDelayedRunlevelTimers s)))

/-- The state after booting with `BOOTSTATE` unset and R&D mode off, then the events `es`. -/
def bootRun (cfg : Config) (es : List Event) : State := run cfg (moduleInit cfg none false) es

/-- A boot run ending in `e` is the run before it, then `e`. -/
theorem bootRun_concat (cfg : Config) (es : List Event) (e : Event) :
    bootRun cfg (es ++ [e]) = step cfg (bootRun cfg es) e := by
  simp only [bootRun, run_append, run_cons, run_nil]

/-- A build whose timer creations all succeed, whose home is not encrypted and
that finds no reboot parameter file; `direct` is the build mode. -/
def Config.plain (direct : Bool) : Config := ⟨direct, false, fun _ => false, fun _ => true⟩

/-- The states the module can be in between two events. -/
inductive Reachable (cfg : Config) : State → Prop
  | init (bootstate : Option (List Char)) (rdMode : Bool) :
      Reachable cfg (moduleInit cfg bootstate rdMode)
  | step {s : State} (e : Event) : Reachable cfg s → Reachable cfg (step cfg s e)

/-- Every run from a reachable state ends in a reachable state. -/
theorem Reachable.run {cfg : Config} {s : State} (h : Reachable cfg s) (es : List Event) :
    Reachable cfg (run cfg s es) := by
  induction es generalizing s with
  | nil => exact h
  | cons e es ih => exact ih (h.step e)

end Dsme

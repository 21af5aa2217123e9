/-
# dsmetool's wait for a reply

`src/util/dsmetool.c` sends DSME a request and waits for the reply in a loop:
`xdsme_query_version` waits for `DSME_VERSION`, `xdsme_query_runlevel` for
`STATE_CHANGE_IND`.  Each pass calls `dsmeipc_wait` (lines 242-268).  It reads
the boot-time clock, sets the deadline to five seconds after the first
reading, and asks `poll` for input.  The timeout it hands `poll` is
`now - *tmo` where the time left is `*tmo - now`.  Before the deadline the
timeout is therefore negative, and a negative timeout makes `poll` wait
without bound.

`replyWait` runs the loop on the clock reading and the `poll` outcome of each
pass.  For every nondecreasing run of readings the timeouts it hands to `poll`
are `now - deadline` before the deadline and `0` after it
(`replyWait_timeouts`), and the first one is always `-5000`.  So every pass
before the deadline asks `poll` to wait without bound
(`replyWait_pollBounds`).  The `int64_t`
values are integers: `boottime_get_ms` counts milliseconds since boot, far
below `2^63`.
-/

import Dsme.Basic

namespace Dsme

/-- `DSMEIPC_WAIT_DEFAULT`: the deadline is not set yet. -/
def dsmeipcWaitDefault : Int := -1

/-- The conversion of an `int64_t` to `int`: the value modulo `2^32`, read
signed, as GCC defines it. -/
def toCInt (x : Int) : Int := (x + 2147483648) % 4294967296 - 2147483648

theorem toCInt_of_mem {x : Int} (h₁ : -2147483648 ≤ x) (h₂ : x < 2147483648) : toCInt x = x := by
  unfold toCInt
  omega

/-- `dsmeipc_wait` up to its `poll`: from the clock reading and `*tmo`, the new
`*tmo` and the timeout handed to `poll`. -/
def dsmeipcWait (now tmo : Int) : Int × Int :=
  let tmo := if tmo = dsmeipcWaitDefault then now + 5000 else tmo
  (tmo, if tmo > now then toCInt (now - tmo) else 0)

/-- How long `poll(2)` may block with this timeout, in milliseconds; a
negative timeout means without bound. -/
def pollBound (timeout : Int) : Option Nat :=
  if timeout < 0 then none else some timeout.toNat

/-- What dsmetool reads from its socket. -/
inductive Received
  /-- `DSM_MSGTYPE_DSME_VERSION`, with the version string as its extra. -/
  | dsmeVersion (version : List Char)
  | stateChangeInd (state : DsmeState)
  /-- Any other message. -/
  | other
  deriving DecidableEq, Repr

/-- One pass of a reply-wait loop: the clock reading `dsmeipc_wait` takes, and
the message `dsmeipc_read` returns when `poll` reports input (`none` when it
does not). -/
structure Pass where
  now : Int
  read : Option Received
  deriving DecidableEq, Repr

/-- What a reply-wait loop did: the timeouts it handed to `poll`, oldest
first, and the reply, if one came. -/
structure WaitResult (α : Type) where
  timeouts : List Int
  reply : Option α

/-- The reply-wait loop `while (dsmeipc_wait(&timeout)) { read; if reply, break; }`
from the deadline `tmo`, with `reply` the `DSMEMSG_CAST` to the awaited type.
It stops when `poll` reports no input or the reply is read; a run cut short
is the passes given. -/
def replyWait {α : Type} (reply : Received → Option α) (tmo : Int) : List Pass → WaitResult α
  | [] => ⟨[], none⟩
  | p :: ps =>
    let w := dsmeipcWait p.now tmo
    match p.read with
    | none => ⟨[w.2], none⟩
    | some m =>
      match reply m with
      | some a => ⟨[w.2], some a⟩
      | none => ⟨w.2 :: (replyWait reply w.1 ps).timeouts, (replyWait reply w.1 ps).reply⟩

/-- The loop of `xdsme_query_version`. -/
def xdsmeQueryVersion : List Pass → WaitResult (List Char) :=
  replyWait (fun | .dsmeVersion v => some v | _ => none) dsmeipcWaitDefault

/-- The loop of `xdsme_query_runlevel`. -/
def xdsmeQueryRunlevel : List Pass → WaitResult DsmeState :=
  replyWait (fun | .stateChangeInd st => some st | _ => none) dsmeipcWaitDefault

/-- The timeout `dsmeipc_wait` hands `poll` at the reading `now` once the
deadline is `tmo`: `now - tmo` before the deadline, `0` from it on. -/
def waitTimeout (tmo now : Int) : Int := if now < tmo then now - tmo else 0

/-- Before the deadline `poll` is asked to wait without bound, from it on not
at all. -/
theorem pollBound_waitTimeout (tmo now : Int) :
    pollBound (waitTimeout tmo now) = if now < tmo then none else some 0 := by
  unfold pollBound waitTimeout
  by_cases h : now < tmo
  · rw [if_pos h, if_pos h, if_pos (by omega)]
  · rw [if_neg h, if_neg h, if_neg (by omega)]
    rfl

/-- The first call sets the deadline five seconds ahead and hands `poll` `-5000`. -/
theorem dsmeipcWait_first (now : Int) : dsmeipcWait now dsmeipcWaitDefault = (now + 5000, -5000) := by
  simp only [dsmeipcWait, if_true, gt_iff_lt, if_pos (show now < now + 5000 by omega),
    show now - (now + 5000) = -5000 by omega, toCInt_of_mem (x := -5000) (by omega) (by omega)]

/-- A later call keeps the deadline and hands `poll` `waitTimeout`, as long as
the clock has not gone back before the first reading. -/
theorem dsmeipcWait_of_deadline {tmo now : Int} (hd : tmo ≠ dsmeipcWaitDefault)
    (hn : tmo - 5000 ≤ now) : dsmeipcWait now tmo = (tmo, waitTimeout tmo now) := by
  simp only [dsmeipcWait, if_neg hd, waitTimeout, gt_iff_lt]
  split
  · rw [toCInt_of_mem (by omega) (by omega)]
  · rfl

/-- From a set deadline, the loop hands `poll` `waitTimeout` at each reading,
for as many passes as it runs. -/
theorem replyWait_of_deadline {α : Type} (reply : Received → Option α) {tmo : Int}
    (hd : tmo ≠ dsmeipcWaitDefault) :
    ∀ ps : List Pass, (∀ q ∈ ps, tmo - 5000 ≤ q.now) →
      (replyWait reply tmo ps).timeouts <+: ps.map fun q => waitTimeout tmo q.now
  | [], _ => List.nil_prefix
  | q :: ps, h => by
    have hw := dsmeipcWait_of_deadline hd (h q (List.mem_cons_self _ _))
    have ih := replyWait_of_deadline reply hd ps fun r hr => h r (List.mem_cons_of_mem _ hr)
    simp only [replyWait, hw, List.map_cons]
    split
    · simp
    · split
      · simp
      · exact List.cons_prefix_cons.2 ⟨rfl, ih⟩

/-- **The timeouts of a reply-wait loop.** For every nondecreasing run of
readings, the first from `0` on, the loop hands `poll` `-5000` first and then
`waitTimeout` from the deadline five seconds after the first reading. -/
theorem replyWait_timeouts {α : Type} (reply : Received → Option α) (p : Pass) (ps : List Pass)
    (h0 : 0 ≤ p.now) (hmono : ((p :: ps).map Pass.now).Pairwise (· ≤ ·)) :
    (replyWait reply dsmeipcWaitDefault (p :: ps)).timeouts.head? = some (-5000) ∧
    (replyWait reply dsmeipcWaitDefault (p :: ps)).timeouts <+:
      (p :: ps).map fun q => waitTimeout (p.now + 5000) q.now := by
  have hd : p.now + 5000 ≠ dsmeipcWaitDefault := by unfold dsmeipcWaitDefault; omega
  have hall : ∀ q ∈ ps, p.now + 5000 - 5000 ≤ q.now := fun q hq => by
    have := List.rel_of_pairwise_cons hmono (List.mem_map_of_mem Pass.now hq)
    omega
  have ih := replyWait_of_deadline reply hd ps hall
  have hfirst : waitTimeout (p.now + 5000) p.now = -5000 := by unfold waitTimeout; split <;> omega
  simp only [replyWait, dsmeipcWait_first, List.map_cons, hfirst]
  split
  · simp
  · split
    · simp
    · exact ⟨rfl, List.cons_prefix_cons.2 ⟨rfl, ih⟩⟩

/-- **What `poll` is asked to wait in a reply-wait loop.**  For every
nondecreasing run of readings, the first from `0` on, every pass before the
deadline asks `poll` to wait without bound, and every later one not at all. -/
theorem replyWait_pollBounds {α : Type} (reply : Received → Option α) (p : Pass) (ps : List Pass)
    (h0 : 0 ≤ p.now) (hmono : ((p :: ps).map Pass.now).Pairwise (· ≤ ·)) :
    (replyWait reply dsmeipcWaitDefault (p :: ps)).timeouts.map pollBound <+:
      (p :: ps).map fun q => if q.now < p.now + 5000 then none else some 0 := by
  have h := (replyWait_timeouts reply p ps h0 hmono).2.map pollBound
  simpa only [List.map_map, Function.comp_def, pollBound_waitTimeout] using h

/-- A pass that read a message the loop does not wait for. -/
def Pass.Skipped {α : Type} (reply : Received → Option α) (q : Pass) : Prop :=
  ∃ m, q.read = some m ∧ reply m = none

/-- **A reply-wait loop returns the first awaited message.**  For every run of
passes and every deadline, the loop returns `a` exactly when some pass reads
a message that decodes to `a`, and every pass before it read a message the
loop does not wait for. -/
theorem replyWait_reply_eq_some_iff {α : Type} (reply : Received → Option α) (tmo : Int)
    (ps : List Pass) (a : α) :
    (replyWait reply tmo ps).reply = some a ↔
      ∃ pre p post, ps = pre ++ p :: post ∧ (∀ q ∈ pre, q.Skipped reply) ∧
        ∃ m, p.read = some m ∧ reply m = some a := by
  induction ps generalizing tmo with
  | nil => simp [replyWait]
  | cons p ps ih =>
    rw [exists_split_cons, ← ih (dsmeipcWait p.now tmo).1]
    cases hr : p.read with
    | none => simp [replyWait, Pass.Skipped, hr]
    | some m => cases hm : reply m <;> simp [replyWait, Pass.Skipped, hr, hm]

/-- DSME answers twice with something else, then falls silent: `poll` is asked
to wait without bound twice, then once not at all. -/
example : (xdsmeQueryRunlevel [⟨1000, some .other⟩, ⟨3000, some .other⟩, ⟨7000, none⟩]).timeouts =
    [-5000, -3000, 0] := by
  decide

/-- **dsmetool's reply wait has no bound before its deadline.**  In both query
loops, for every nondecreasing run of readings from `0` on, the first pass
hands `poll` `-5000`.  Every pass before the deadline hands it `now - tmo`,
which is negative, so `poll` waits without bound (`none`), and only the
passes from the deadline on get the bound `0`. -/
theorem query_reply_wait_asks_poll_to_block (p : Pass) (ps : List Pass) (h0 : 0 ≤ p.now)
    (hmono : ((p :: ps).map Pass.now).Pairwise (· ≤ ·)) :
    (xdsmeQueryVersion (p :: ps)).timeouts.head? = some (-5000) ∧
    (xdsmeQueryVersion (p :: ps)).timeouts <+:
      (p :: ps).map (fun q => waitTimeout (p.now + 5000) q.now) ∧
    (xdsmeQueryVersion (p :: ps)).timeouts.map pollBound <+:
      (p :: ps).map (fun q => if q.now < p.now + 5000 then none else some 0) ∧
    (xdsmeQueryRunlevel (p :: ps)).timeouts.head? = some (-5000) ∧
    (xdsmeQueryRunlevel (p :: ps)).timeouts <+:
      (p :: ps).map (fun q => waitTimeout (p.now + 5000) q.now) ∧
    (xdsmeQueryRunlevel (p :: ps)).timeouts.map pollBound <+:
      (p :: ps).map (fun q => if q.now < p.now + 5000 then none else some 0) :=
  have hv := replyWait_timeouts (fun | .dsmeVersion v => some v | _ => none) p ps h0 hmono
  have hr := replyWait_timeouts (fun | .stateChangeInd st => some st | _ => none) p ps h0 hmono
  ⟨hv.1, hv.2, replyWait_pollBounds _ p ps h0 hmono, hr.1, hr.2,
    replyWait_pollBounds _ p ps h0 hmono⟩

/-- DSME sends something else twice, then nothing more. -/
theorem query_reply_wait_asks_poll_to_block_unanswered :
    0 ≤ (⟨1000, some .other⟩ : Pass).now ∧
    List.Pairwise (· ≤ ·)
      (([⟨1000, some .other⟩, ⟨3000, some .other⟩, ⟨7000, none⟩] : List Pass).map Pass.now) ∧
    ((xdsmeQueryVersion [⟨1000, some .other⟩, ⟨3000, some .other⟩, ⟨7000, none⟩]).timeouts.head? =
        some (-5000) ∧
      (xdsmeQueryVersion [⟨1000, some .other⟩, ⟨3000, some .other⟩, ⟨7000, none⟩]).timeouts <+:
        ([⟨1000, some .other⟩, ⟨3000, some .other⟩, ⟨7000, none⟩] : List Pass).map
          (fun q => waitTimeout (1000 + 5000) q.now) ∧
      (xdsmeQueryVersion [⟨1000, some .other⟩, ⟨3000, some .other⟩, ⟨7000, none⟩]).timeouts.map
          pollBound <+:
        ([⟨1000, some .other⟩, ⟨3000, some .other⟩, ⟨7000, none⟩] : List Pass).map
          (fun q => if q.now < 1000 + 5000 then none else some 0) ∧
      (xdsmeQueryRunlevel [⟨1000, some .other⟩, ⟨3000, some .other⟩, ⟨7000, none⟩]).timeouts.head? =
        some (-5000) ∧
      (xdsmeQueryRunlevel [⟨1000, some .other⟩, ⟨3000, some .other⟩, ⟨7000, none⟩]).timeouts <+:
        ([⟨1000, some .other⟩, ⟨3000, some .other⟩, ⟨7000, none⟩] : List Pass).map
          (fun q => waitTimeout (1000 + 5000) q.now) ∧
      (xdsmeQueryRunlevel [⟨1000, some .other⟩, ⟨3000, some .other⟩, ⟨7000, none⟩]).timeouts.map
          pollBound <+:
        ([⟨1000, some .other⟩, ⟨3000, some .other⟩, ⟨7000, none⟩] : List Pass).map
          (fun q => if q.now < 1000 + 5000 then none else some 0)) :=
  ⟨by decide, by decide,
    query_reply_wait_asks_poll_to_block ⟨1000, some .other⟩ [⟨3000, some .other⟩, ⟨7000, none⟩]
      (by decide) (by decide)⟩

end Dsme

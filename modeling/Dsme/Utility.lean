/-
# The helpers of `src/dsme/utility.c` the state module relies on

`dsme_user_is_privileged` decides who may ask for a state change, and
`dsme_home_is_encrypted` answers the policy's question about the home
partition.  The first reads the account database; `Accounts` is the part of
it that the function looks at.  The second probes for the LUKS container and
caches the answer.  Only the first call probes, and every later call answers
what it found, whatever a probe would find then (`homeCalls_probe_once`).  So
the policy may read the answer as the constant `Config.homeIsEncrypted`.

`dsme_state_repr` and `dsme_pid2text` only feed the log and are left out.
-/

import Dsme.Basic

namespace Dsme

/-- The part of the account database `dsme_user_is_privileged` reads. -/
structure Accounts where
  /-- `getpwnam("privileged")`: the uid and gid of that user, if it exists. -/
  privileged : Option (Nat × Nat)
  /-- `getpwuid`, `getgrouplist` and `getgrgid`: the names of the groups of
  the user with this uid, `none` if there is no such user. -/
  groupsOf : Nat → Option (List (List Char))

/-- `dsme_user_is_privileged`; `useWheel` is `DSME_USEWHEEL` being defined. -/
def dsmeUserIsPrivileged (useWheel : Bool) (db : Accounts) (uid gid : Nat) : Bool :=
  let isPrivileged :=
    useWheel && Option.any (fun gs => gs.contains "wheel".toList) (db.groupsOf uid)
  if uid ≠ 0 ∧ gid ≠ 0 then
    match db.privileged with
    | none => isPrivileged
    | some (pwUid, pwGid) => if uid ≠ pwUid ∧ gid ≠ pwGid then isPrivileged else true
  else true

/-- **Who is privileged**: uid or gid `0`, the uid or the gid of the user
`privileged`, and with `DSME_USEWHEEL` every member of group `wheel`. -/
theorem dsmeUserIsPrivileged_iff (useWheel : Bool) (db : Accounts) (uid gid : Nat) :
    dsmeUserIsPrivileged useWheel db uid gid = true ↔
      uid = 0 ∨ gid = 0 ∨
      (∃ pwUid pwGid, db.privileged = some (pwUid, pwGid) ∧ (uid = pwUid ∨ gid = pwGid)) ∨
      (useWheel = true ∧ ∃ gs, db.groupsOf uid = some gs ∧ "wheel".toList ∈ gs) := by
  have wheel : (useWheel && Option.any (fun gs => gs.contains "wheel".toList) (db.groupsOf uid))
      = true ↔ useWheel = true ∧ ∃ gs, db.groupsOf uid = some gs ∧ "wheel".toList ∈ gs := by
    cases db.groupsOf uid <;> simp
  unfold dsmeUserIsPrivileged
  dsimp only
  generalize (useWheel && Option.any (fun gs => gs.contains "wheel".toList) (db.groupsOf uid)) = w
    at wheel ⊢
  rw [← wheel]
  by_cases h0 : uid ≠ 0 ∧ gid ≠ 0
  · rw [if_pos h0]
    cases db.privileged with
    | none => simp [h0.1, h0.2]
    | some p =>
      obtain ⟨pwUid, pwGid⟩ := p
      by_cases hm : uid ≠ pwUid ∧ gid ≠ pwGid
      · simp [hm, h0.1, h0.2]
      · simp only [if_neg hm, true_iff]
        exact .inr (.inr (.inl ⟨pwUid, pwGid, rfl, by omega⟩))
  · simp only [if_neg h0, true_iff]
    omega

/-- `dsme_process_is_privileged`: `owner` is the owner of `/proc/PID`, its
uid and gid, or `none` when `stat` fails. -/
def dsmeProcessIsPrivileged (useWheel : Bool) (db : Accounts) (owner : Option (Nat × Nat)) :
    Bool :=
  match owner with
  | none => false
  | some (uid, gid) => dsmeUserIsPrivileged useWheel db uid gid

/-- The statics of `dsme_home_is_encrypted`. -/
structure HomeProbe where
  isEncrypted : Bool := false
  wasProbed : Bool := false

/-- What one call of `dsme_home_is_encrypted` did: the answer it returned,
and whether it probed, that is ran `dsme_get_crypt_device_for_home`, which
calls `crypt_init` on `/dev/sailfish/home`. -/
structure HomeCall where
  answer : Bool
  probed : Bool
  deriving DecidableEq, Repr

/-- `dsme_home_is_encrypted`: `probe` is whether looking for the LUKS container
`/dev/sailfish/home` would find it now. -/
def dsmeHomeIsEncrypted (probe : Bool) (c : HomeProbe) : HomeCall × HomeProbe :=
  if c.wasProbed then (⟨c.isEncrypted, false⟩, c) else (⟨probe, true⟩, ⟨probe, true⟩)

/-- The calls one after another, each with what its probe would find. -/
def homeCalls : HomeProbe → List Bool → List HomeCall
  | _, [] => []
  | c, p :: ps => (dsmeHomeIsEncrypted p c).1 :: homeCalls (dsmeHomeIsEncrypted p c).2 ps

/-- Once a call has probed, no call probes again, and each answers the cached finding. -/
theorem homeCalls_probed (v : Bool) (ps : List Bool) :
    homeCalls ⟨v, true⟩ ps = List.replicate ps.length ⟨v, false⟩ := by
  induction ps with
  | nil => rfl
  | cons p ps ih => simp [homeCalls, dsmeHomeIsEncrypted, ih, List.replicate_succ]

/-- **Only the first call probes, and its finding is every answer.**  From the
statics' initial values, whatever each probe would find, the first call probes
for the LUKS container and answers what it found.  Every later call probes
nothing and answers the same. -/
theorem homeCalls_probe_once (p : Bool) (ps : List Bool) :
    homeCalls {} (p :: ps) = ⟨p, true⟩ :: List.replicate ps.length ⟨p, false⟩ := by
  simp [homeCalls, dsmeHomeIsEncrypted, homeCalls_probed]

end Dsme

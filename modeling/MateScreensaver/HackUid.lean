import MateScreensaver.Lib.Credentials

/-!
Privileges of a lock dialog that was installed setuid or setgid (setuid.c): what
hack_uid gives up before anything else is run.
-/

namespace MateScreensaver
open Posix

/- What getpwuid and getgrgid know. -/
structure NameService where
  pwName : Id → Option String
  grName : Id → Option String

/- The outcome of each call: nothing, or the errno with which it fails. -/
structure SetIdEnv where
  names : NameService
  setgroups : Option Int
  setgid : Option Int
  setuid : Option Int

/- "user/group (uid/gid)" -/
def namesAndIds (p g : Option String) (uid gid : Id) : String :=
  p.getD "???" ++ "/" ++ g.getD "???" ++ " (" ++ toString uid ++ "/" ++ toString gid ++ ")"

/- setuid.c:33 -/
def uidGidString (names : NameService) (uid gid : Id) : String :=
  namesAndIds (names.pwName uid) (names.grName gid) uid gid

/- What is reported as errno; -1 where errno says nothing. -/
def errnoOf (failure : Option Int) (ok : Bool) : Int :=
  if ok then 0
  else
    let errno := failure.getD 1
    if errno ≠ 0 then errno else -1

/- The id -1 means no change to some systems; -2 is used in its place. -/
def avoidMinusOne (id : Id) : Id := if id = 0xFFFFFFFF then 0xFFFFFFFE else id

/- The lines for stderr, each with the errno that perror appends. -/
def complaint (errno : Int) (text : String) : List (String × Int) := if errno ≠ 0 then [(text, errno)] else []

/-- setuid.c:52: what it returns, its message, the lines on stderr and the ids
afterwards. The names are those of the ids as they were given. -/
def setIdsByNumber (env : SetIdEnv) (uid gid : Id) (c : Creds) : Bool × Option String × List (String × Int) × Creds :=
  let p := env.names.pwName uid
  let g := env.names.grName gid
  let gid := avoidMinusOne gid
  let uid := avoidMinusOne uid
  let (sgsOk, c) := c.call env.setgroups.isSome (.setgroups [gid])
  let (gidOk, c) := c.call env.setgid.isSome (.group (.set gid))
  let (uidOk, c) := c.call env.setuid.isSome (.user (.set uid))
  let sgsErrno := errnoOf env.setgroups sgsOk
  let gidErrno := errnoOf env.setgid gidOk
  let uidErrno := errnoOf env.setuid uidOk
  if uidErrno = 0 ∧ gidErrno = 0 ∧ sgsErrno = 0 then
    (true, some ("changed uid/gid to " ++ namesAndIds p g uid gid ++ "."), [], c)
  else
    (false, none,
      complaint sgsErrno ("couldn't setgroups to " ++ g.getD "???" ++ " (" ++ toString gid ++ ")") ++
      complaint gidErrno ("couldn't set gid to " ++ g.getD "???" ++ " (" ++ toString gid ++ ")") ++
      complaint uidErrno ("couldn't set uid to " ++ p.getD "???" ++ " (" ++ toString uid ++ ")"), c)

structure HackUid where
  ok : Bool
  nolockReason : Option String
  origUid : String
  uidMessage : Option String
  stderr : List (String × Int)
deriving DecidableEq

/- setuid.c:239, with the ids as they are by then. -/
def refuseRoot (origUid : String) (uidMessage : Option String) (c : Creds) : HackUid × Creds :=
  if c.user.real = 0 then (⟨false, some "running as root", origUid, uidMessage, []⟩, c)
  else (⟨true, none, origUid, uidMessage, []⟩, c)

/-- setuid.c:171, as privileged_initialization calls it, and the ids it leaves. -/
def hackUid (env : SetIdEnv) (c : Creds) : HackUid × Creds :=
  let origUid := uidGidString env.names c.user.effective c.group.effective
  if c.user.real ≠ c.user.effective ∨ c.group.real ≠ c.group.effective then
    match setIdsByNumber env c.user.real c.group.real c with
    | (true, message, _, c) => refuseRoot origUid message c
    | (false, message, stderr, c) => (⟨false, some "unable to discard privileges.", origUid, message, stderr⟩, c)
  else refuseRoot origUid none c

/-! ### Nothing is left -/

variable {env : SetIdEnv} {uid gid : Id} {c c' : Creds}

theorem errnoOf_eq_zero (failure : Option Int) (ok : Bool) : errnoOf failure ok = 0 ↔ ok = true := by
  cases ok with
  | true => exact ⟨fun _ => rfl, fun _ => rfl⟩
  | false =>
    refine ⟨fun h => ?_, nofun⟩
    simp only [errnoOf, Bool.false_eq_true, if_false] at h
    split at h
    · next hne => exact absurd h hne
    · cases h

theorem call_setgroups {fails : Bool} {groups : List Id} (h : c.call fails (.setgroups groups) = (true, c')) :
    c.user.effective = 0 ∧ c' = { c with groups := groups } := by
  rw [Creds.call] at h
  split at h
  · next hok =>
    rw [Bool.and_eq_true] at hok
    exact ⟨of_decide_eq_true hok.2, (Prod.mk.inj h).2.symm⟩
  · cases h

theorem call_setgid {fails : Bool} (hroot : c.user.effective = 0) (h : c.call fails (.group (.set gid)) = (true, c')) :
    c' = { c with group := .only gid } := by
  have hpriv : c.privileged = true := decide_eq_true hroot
  rw [Creds.call, hpriv] at h
  cases fails with
  | true => cases h
  | false => exact (Prod.mk.inj h).2.symm

theorem call_setuid {fails : Bool} (hroot : c.user.effective = 0) (h : c.call fails (.user (.set uid)) = (true, c')) :
    c' = { c with user := .only uid } := by
  have hpriv : c.privileged = true := decide_eq_true hroot
  rw [Creds.call, hpriv] at h
  cases fails with
  | true => cases h
  | false => exact (Prod.mk.inj h).2.symm

/-- It succeeds for the superuser only, and then every id is set. -/
theorem setIdsByNumber_succeeds {message : Option String} {stderr : List (String × Int)}
    (h : setIdsByNumber env uid gid c = (true, message, stderr, c')) :
    c'.user = .only (avoidMinusOne uid) ∧ c'.group = .only (avoidMinusOne gid) := by
  rw [setIdsByNumber] at h
  generalize hgroups : c.call env.setgroups.isSome (.setgroups [avoidMinusOne gid]) = r1 at h
  obtain ⟨sgsOk, c1⟩ := r1
  dsimp only at h
  generalize hgid : c1.call env.setgid.isSome (.group (.set (avoidMinusOne gid))) = r2 at h
  obtain ⟨gidOk, c2⟩ := r2
  dsimp only at h
  generalize huid : c2.call env.setuid.isSome (.user (.set (avoidMinusOne uid))) = r3 at h
  obtain ⟨uidOk, c3⟩ := r3
  simp only [errnoOf_eq_zero] at h
  split at h
  · next hok =>
    obtain ⟨rfl, rfl, rfl⟩ := hok
    obtain ⟨hroot, rfl⟩ := call_setgroups hgroups
    -- group first: it takes the effective user that setuid gives up
    obtain rfl := call_setgid (by exact hroot) hgid
    obtain rfl := call_setuid (by exact hroot) huid
    obtain rfl : _ = c' := (Prod.mk.inj (Prod.mk.inj (Prod.mk.inj h).2).2).2
    exact ⟨rfl, rfl⟩
  · cases h

/- The ids of a process that was started by exec, and has not changed them since. -/
def AfterExec (c : Creds) : Prop := c.user.saved = c.user.effective ∧ c.group.saved = c.group.effective

theorem afterExec_exec (ruid euid rgid egid : Id) (groups : List Id) : AfterExec (.exec ruid euid rgid egid groups) :=
  ⟨rfl, rfl⟩

theorem ids_only_of_eq {ids : Ids} (hreal : ids.real = ids.effective) (hsaved : ids.saved = ids.effective) :
    ids = .only ids.real := by
  obtain ⟨real, effective, saved⟩ := ids
  cases hreal
  cases hsaved
  rfl

theorem refuseRoot_dropped {origUid : String} {uidMessage : Option String} (huser : c.user = .only c.user.real)
    (hgroup : c.group = .only c.group.real) (h : (refuseRoot origUid uidMessage c).1.ok = true) :
    (refuseRoot origUid uidMessage c).2.Dropped := by
  by_cases hroot : c.user.real = 0
  · rw [refuseRoot, if_pos hroot] at h
    cases h
  · rw [refuseRoot, if_neg hroot]
    exact ⟨huser, hroot, hgroup⟩

theorem hackUid_dropped (hexec : AfterExec c) (h : (hackUid env c).1.ok = true) : (hackUid env c).2.Dropped := by
  rw [hackUid] at h ⊢
  split at h
  · next hother =>
    rw [if_pos hother]
    cases hset : setIdsByNumber env c.user.real c.group.real c with
    | mk ok rest =>
      obtain ⟨message, stderr, c'⟩ := rest
      cases ok with
      | true =>
        obtain ⟨huser, hgroup⟩ := setIdsByNumber_succeeds hset
        rw [hset] at h
        exact refuseRoot_dropped (by rw [huser]; rfl) (by rw [hgroup]; rfl) h
      | false =>
        rw [hset] at h
        cases h
  · next hsame =>
    -- nothing was given up: the ids are equal already, the saved ones as exec left them
    rw [if_neg hsame]
    obtain ⟨huser, hgroup⟩ := not_or.1 hsame
    exact refuseRoot_dropped (ids_only_of_eq (not_not.1 huser) hexec.1)
      (ids_only_of_eq (not_not.1 hgroup) hexec.2) h

/-- Where hack_uid returns TRUE, the privileges are gone for good: one user id that is
not 0 and one group id, in all three places, whatever is called afterwards. -/
theorem hackUid_drops (env : SetIdEnv) (c : Creds) (hexec : AfterExec c) (h : (hackUid env c).1.ok = true) :
    (hackUid env c).2.Dropped ∧ ∀ calls : List (Bool × Call),
      calls.foldl (fun c q => (c.call q.1 q.2).2) (hackUid env c).2 = (hackUid env c).2 :=
  ⟨hackUid_dropped hexec h, (hackUid_dropped hexec h).calls⟩

/- A dialog that is setuid root, started by user 1000. -/
def installedDialog : Creds := .exec 1000 0 1000 1000 [1000]

def calm : SetIdEnv := ⟨⟨fun _ => none, fun _ => none⟩, none, none, none⟩

theorem hackUid_drops_installed : (hackUid calm installedDialog).2 = ⟨.only 1000, .only 1000, [1000]⟩ ∧
    (hackUid calm installedDialog).2.Dropped ∧ ∀ calls : List (Bool × Call),
      calls.foldl (fun c q => (c.call q.1 q.2).2) (hackUid calm installedDialog).2 = (hackUid calm installedDialog).2 :=
  ⟨by decide, hackUid_drops calm installedDialog (afterExec_exec 1000 0 1000 1000 [1000]) (by decide)⟩

end MateScreensaver

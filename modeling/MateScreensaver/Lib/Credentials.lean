import Mathlib.Data.List.Basic

/-!
User and group ids of a process, and the calls that change them: real, effective and
saved ids, where effective user 0 is what a call needs to set them freely.
-/

namespace Posix

abbrev Id := UInt32

structure Ids where
  real : Id
  effective : Id
  saved : Id
deriving DecidableEq

structure Creds where
  user : Ids
  group : Ids
  groups : List Id
deriving DecidableEq

def Ids.only (id : Id) : Ids := ⟨id, id, id⟩

def Ids.has (ids : Ids) (id : Id) : Bool := id = ids.real || id = ids.effective || id = ids.saved

/- As exec leaves them: the saved ids are the effective ones. -/
def Creds.exec (ruid euid rgid egid : Id) (groups : List Id) : Creds :=
  ⟨⟨ruid, euid, euid⟩, ⟨rgid, egid, egid⟩, groups⟩

def Creds.privileged (c : Creds) : Bool := c.user.effective = 0

/-- The calls of the set*id family, for users or for groups. Nothing is the id -1,
which leaves an id as it is. -/
inductive SetId
  | set (id : Id)
  | setEffective (id : Id)
  | setRealEffective (real effective : Option Id)
  | setAll (real effective saved : Option Id)
deriving DecidableEq

/- What a call makes of the three ids; nothing where it is refused. -/
def SetId.apply (privileged : Bool) (ids : Ids) : SetId → Option Ids
  | .set id =>
    if privileged then some (.only id)
    else if id = ids.real ∨ id = ids.saved then some { ids with effective := id }
    else none
  | .setEffective id =>
    if privileged ∨ id = ids.real ∨ id = ids.saved then some { ids with effective := id } else none
  | .setRealEffective r e =>
    let real := r.getD ids.real
    let effective := e.getD ids.effective
    if privileged ∨ (ids.has real ∧ ids.has effective) then
      some ⟨real, effective, if r.isSome ∨ effective ≠ ids.real then effective else ids.saved⟩
    else none
  | .setAll r e s =>
    let real := r.getD ids.real
    let effective := e.getD ids.effective
    let saved := s.getD ids.saved
    if privileged ∨ (ids.has real ∧ ids.has effective ∧ ids.has saved) then some ⟨real, effective, saved⟩
    else none

inductive Call
  | user (call : SetId)
  | group (call : SetId)
  | setgroups (groups : List Id)
deriving DecidableEq

/- A call that may fail for any other reason, too. -/
def SetId.attempt (fails privileged : Bool) (ids : Ids) (q : SetId) : Option Ids :=
  if fails then none else q.apply privileged ids

/- A call that fails changes nothing. -/
def Creds.call (c : Creds) (fails : Bool) : Call → Bool × Creds
  | .user q =>
    match q.attempt fails c.privileged c.user with
    | some ids => (true, { c with user := ids })
    | none => (false, c)
  | .group q =>
    match q.attempt fails c.privileged c.group with
    | some ids => (true, { c with group := ids })
    | none => (false, c)
  | .setgroups groups => if !fails && c.privileged then (true, { c with groups := groups }) else (false, c)

/-! ### Privileges that are gone -/

/-- One user, not the superuser, and one group. -/
structure Creds.Dropped (c : Creds) : Prop where
  user : c.user = .only c.user.real
  notRoot : c.user.real ≠ 0
  group : c.group = .only c.group.real

variable {c : Creds}

theorem Ids.has_only {id other : Id} : (Ids.only id).has other = true ↔ other = id := by
  rw [Ids.has, Ids.only, Bool.or_self, Bool.or_self, decide_eq_true_eq]

/- Who has only one id gets no other. -/
theorem SetId.apply_only {id : Id} {ids : Ids} (q : SetId) (h : q.apply false (.only id) = some ids) :
    ids = .only id := by
  cases q with
  | set other =>
    simp only [apply, Bool.false_eq_true, if_false] at h
    split at h
    · next hid =>
      obtain rfl := Option.some.inj h
      obtain rfl : other = id := hid.elim (fun h => h) (fun h => h)
      rfl
    · cases h
  | setEffective other =>
    simp only [apply, Bool.false_eq_true, false_or] at h
    split at h
    · next hid =>
      obtain rfl := Option.some.inj h
      obtain rfl : other = id := hid.elim (fun h => h) (fun h => h)
      rfl
    · cases h
  | setRealEffective r e =>
    simp only [apply, Bool.false_eq_true, false_or, Ids.has_only] at h
    split at h
    · next hid =>
      obtain rfl := Option.some.inj h
      rw [hid.1, hid.2]
      show Ids.mk id id (ite _ id id) = _
      rw [ite_self]
      rfl
    · cases h
  | setAll r e s =>
    simp only [apply, Bool.false_eq_true, false_or, Ids.has_only] at h
    split at h
    · next hid =>
      obtain rfl := Option.some.inj h
      rw [hid.1, hid.2.1, hid.2.2]
      rfl
    · cases h

theorem Creds.Dropped.unprivileged (h : c.Dropped) : c.privileged = false := by
  have heffective : c.user.effective = c.user.real := by
    rw [h.user]
    rfl
  rw [Creds.privileged, heffective]
  exact decide_eq_false h.notRoot

theorem SetId.attempt_only {id : Id} {ids : Ids} (q : SetId) {fails : Bool}
    (h : q.attempt fails false (.only id) = some ids) : ids = .only id := by
  cases fails with
  | true => cases h
  | false => exact q.apply_only h

/- No call changes who a process is once its privileges are gone. -/
theorem Creds.Dropped.call (h : c.Dropped) (fails : Bool) (q : Call) : (c.call fails q).2 = c := by
  have hpriv := h.unprivileged
  cases q with
  | user q =>
    rw [Creds.call, hpriv]
    cases hq : q.attempt fails false c.user with
    | none => rfl
    | some ids =>
      have hids : ids = c.user := by
        rw [h.user] at hq ⊢
        exact q.attempt_only hq
      rw [hids]
  | group q =>
    rw [Creds.call, hpriv]
    cases hq : q.attempt fails false c.group with
    | none => rfl
    | some ids =>
      have hids : ids = c.group := by
        rw [h.group] at hq ⊢
        exact q.attempt_only hq
      rw [hids]
  | setgroups groups =>
    rw [Creds.call, hpriv, Bool.and_false]
    rfl

theorem Creds.Dropped.calls (h : c.Dropped) (qs : List (Bool × Call)) :
    qs.foldl (fun c q => (c.call q.1 q.2).2) c = c := by
  induction qs with
  | nil => rfl
  | cons q qs ih =>
    rw [List.foldl_cons, h.call]
    exact ih

end Posix

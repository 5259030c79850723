import MateScreensaver.Step

/-!
The registry of inhibitors and throttlers by itself: the two tables, the flag
derived from one of them and the cookie remembered for ConsoleKit. Whatever else
the process does, its registry moves by the few operations below.
-/

namespace MateScreensaver
open Runs

structure Registry where
  inhibitors : Table Nat RefEntry
  throttlers : Table Nat RefEntry
  throttled : Bool
  ckThrottleCookie : Nat

namespace Registry

def table (r : Registry) : RefType → Table Nat RefEntry
  | .inhibit => r.inhibitors
  | .throttle => r.throttlers

/- The flag follows the throttlers when they have changed. -/
def change (type : RefType) (t : Table Nat RefEntry) (r : Registry) : Registry :=
  match type with
  | .inhibit => { r with inhibitors := t }
  | .throttle => { r with throttlers := t, throttled := !t.isEmpty }

/- An inhibitor that the session manager knows is kept with its cookie. -/
def proxied (env : Env) (type : RefType) (entry : RefEntry) : RefEntry :=
  match type, env.sessionInhibit with
  | .inhibit, some c => { entry with foreignCookie := c }
  | _, _ => entry

/- A cookie for a new entry. -/
def draw (env : Env) (type : RefType) (r : Registry) : Option Nat :=
  (env.draws.find? fun c => (r.table type).lookup c.1 = none).map Subtype.val

def add (env : Env) (type : RefType) (entry : RefEntry) (r : Registry) : Registry :=
  r.change type ((r.table type).insert entry.cookie (proxied env type entry))

def remove (type : RefType) (cookie : Nat) (r : Registry) : Registry :=
  match (r.table type).lookup cookie with
  | none => r
  | some _ => r.change type ((r.table type).erase cookie)

def removeFor (type : RefType) (name : BusName) (r : Registry) : Registry :=
  if (r.table type).any fun e => e.connection = name then
    r.change type ((r.table type).removeIf fun e => e.connection = name)
  else r

def serviceDeleted (name : BusName) (r : Registry) : Registry :=
  (r.removeFor .throttle name).removeFor .inhibit name

def removeCk (r : Registry) : Registry :=
  if r.ckThrottleCookie ≠ 0 then { r.remove .throttle r.ckThrottleCookie with ckThrottleCookie := 0 }
  else r

def addCk (env : Env) (entry : RefEntry) (r : Registry) : Registry :=
  { r.add env .throttle entry with ckThrottleCookie := entry.cookie }

end Registry

/-! ### One event -/

/- The two pairs of method calls. -/
def SessionCall.request (type : RefType) (application reason : String) : SessionCall :=
  match type with
  | .inhibit => .inhibit (some (application, reason))
  | .throttle => .throttle (some (application, reason))

def SessionCall.cancel (type : RefType) (cookie : Nat) : SessionCall :=
  match type with
  | .inhibit => .unInhibit (some cookie)
  | .throttle => .unThrottle (some cookie)

/-- What happened to the registry, as its clients and the buses see it. A name
has left the bus when it had an owner of that very name and has none now. -/
inductive RegistryAction
  | accepted (type : RefType) (entry : RefEntry)
  | cancelled (type : RefType) (cookie : Nat) (sender : BusName)
  | departed (name : BusName)
  | sessionChanged (cookie : Nat) (entry : Option RefEntry)

namespace Registry

def entryFor (env : Env) (type : RefType) (sender : BusName) (application reason : String)
    (cookie : Nat) : RefEntry :=
  { entryType := type, application := application, reason := reason, connection := sender,
    cookie := cookie, since := env.time }

def entryForCk (env : Env) (sender : BusName) (cookie : Nat) : RefEntry :=
  { entryFor env .throttle sender "ConsoleKit" "Session is not active" cookie with fromConsoleKit := true }

def acceptance (env : Env) (type : RefType) (sender : BusName) (application reason : String)
    (r : Registry) : List RegistryAction :=
  match r.draw env type with
  | some cookie => [.accepted type (proxied env type (entryFor env type sender application reason cookie))]
  | none => []

def sessionChange (env : Env) (sender : BusName) (newActive : Bool) (r : Registry) :
    List RegistryAction :=
  if newActive then [.sessionChanged r.ckThrottleCookie none]
  else
    match r.removeCk.draw env .throttle with
    | some cookie => [.sessionChanged r.ckThrottleCookie (some (entryForCk env sender cookie))]
    | none => []

/- `hears` holds of the session that a signal of ConsoleKit is listened to for. -/
def record (hears : String → Bool) (env : Env) (r : Registry) : Event → List RegistryAction
  | .sessionCall sender (.inhibit (some (application, reason))) =>
    r.acceptance env .inhibit sender application reason
  | .sessionCall sender (.throttle (some (application, reason))) =>
    r.acceptance env .throttle sender application reason
  | .sessionCall sender (.unInhibit (some cookie)) => [.cancelled .inhibit cookie sender]
  | .sessionCall sender (.unThrottle (some cookie)) => [.cancelled .throttle cookie sender]
  | .nameOwnerChanged name oldOwner newOwner =>
    if name = oldOwner ∧ newOwner = "" then [.departed oldOwner] else []
  | .systemSignal sender (.ckActiveChanged path (some newActive)) =>
    if hears path then r.sessionChange env sender newActive else []
  | _ => []

def concerns (hears : String → Bool) : Event → Bool
  | .sessionCall _ (.inhibit args) => args.isSome
  | .sessionCall _ (.throttle args) => args.isSome
  | .sessionCall _ (.unInhibit cookie) => cookie.isSome
  | .sessionCall _ (.unThrottle cookie) => cookie.isSome
  | .nameOwnerChanged _ _ _ => true
  | .systemSignal _ (.ckActiveChanged path newActive) => newActive.isSome && hears path
  | _ => false

/-- Every way the registry moves in one event, and what is recorded of it. -/
inductive Moves (hears : String → Bool) (env : Env) (r : Registry) :
    Event → List RegistryAction → Registry → Prop
  | accepted {type : RefType} {sender : BusName} {application reason : String} {cookie : Nat}
      (fresh : r.draw env type = some cookie) :
      Moves hears env r (.sessionCall sender (.request type application reason))
        [.accepted type (proxied env type (entryFor env type sender application reason cookie))]
        (r.add env type (entryFor env type sender application reason cookie))
  | cancelled (type : RefType) (sender : BusName) (cookie : Nat) :
      Moves hears env r (.sessionCall sender (.cancel type cookie)) [.cancelled type cookie sender]
        (r.remove type cookie)
  | ownerChanged (name oldOwner newOwner : BusName) :
      Moves hears env r (.nameOwnerChanged name oldOwner newOwner)
        (if name = oldOwner ∧ newOwner = "" then [.departed oldOwner] else []) (r.serviceDeleted oldOwner)
  | sessionActive {sender : BusName} {path : String} (ours : hears path = true) :
      Moves hears env r (.systemSignal sender (.ckActiveChanged path (some true)))
        [.sessionChanged r.ckThrottleCookie none] r.removeCk
  | sessionInactive {sender : BusName} {path : String} {cookie : Nat} (ours : hears path = true)
      (fresh : r.removeCk.draw env .throttle = some cookie) :
      Moves hears env r (.systemSignal sender (.ckActiveChanged path (some false)))
        [.sessionChanged r.ckThrottleCookie (some (entryForCk env sender cookie))]
        (r.removeCk.addCk env (entryForCk env sender cookie))
  | nothing {e : Event} (h : concerns hears e = false) : Moves hears env r e [] r

end Registry

/-! ### The entries -/

namespace Registry
variable {r u : Registry} {env : Env} {hears : String → Bool} {e : Event} {log : List RegistryAction}

def entry (r : Registry) (type : RefType) (cookie : Nat) : Option RefEntry := (r.table type).lookup cookie

theorem table_change (type : RefType) (t : Table Nat RefEntry) (r : Registry) (type' : RefType) :
    (r.change type t).table type' = if type' = type then t else r.table type' := by
  cases type <;> cases type' <;> rfl

theorem entry_change {type type' : RefType} {t : Table Nat RefEntry} {cookie : Nat} :
    (r.change type t).entry type' cookie = if type' = type then t.lookup cookie else r.entry type' cookie := by
  rw [entry, table_change]
  split <;> rfl

theorem entry_add {type type' : RefType} {x y : RefEntry} {cookie : Nat} :
    (r.add env type x).entry type' cookie = some y ↔
      (type' = type ∧ cookie = x.cookie ∧ proxied env type x = y) ∨
      (¬ (type' = type ∧ cookie = x.cookie) ∧ r.entry type' cookie = some y) := by
  rw [add, entry_change]
  by_cases h : type' = type
  · subst h
    rw [if_pos rfl, Table.lookup_insert_iff]
    simp [entry]
  · simp [h]

theorem entry_remove {type type' : RefType} {y : RefEntry} {cookie cookie' : Nat} :
    (r.remove type cookie).entry type' cookie' = some y ↔
      ¬ (type' = type ∧ cookie' = cookie) ∧ r.entry type' cookie' = some y := by
  have hnone : (r.table type).lookup cookie = none → (r.entry type' cookie' = some y →
      ¬ (type' = type ∧ cookie' = cookie)) := by
    rintro h hy ⟨rfl, rfl⟩
    rw [entry, h] at hy
    cases hy
  rw [remove]
  split
  · next h => exact ⟨fun hy => ⟨hnone h hy, hy⟩, And.right⟩
  · rw [entry_change]
    by_cases h : type' = type
    · subst h
      rw [if_pos rfl, Table.lookup_erase_iff]
      simp [entry]
    · simp [h]

theorem entry_removeFor {type type' : RefType} {y : RefEntry} {name : BusName} {cookie : Nat} :
    (r.removeFor type name).entry type' cookie = some y ↔
      ¬ (type' = type ∧ y.connection = name) ∧ r.entry type' cookie = some y := by
  rw [removeFor]
  split
  · rw [entry_change]
    by_cases h : type' = type
    · subst h
      rw [if_pos rfl, Table.lookup_removeIf_iff]
      simp [entry, and_comm]
    · simp [h]
  · next hno =>
    refine ⟨fun hy => ⟨?_, hy⟩, And.right⟩
    rintro ⟨rfl, hname⟩
    exact hno (Table.any_iff.2 ⟨cookie, y, hy, by simpa using hname⟩)

theorem entry_serviceDeleted {type : RefType} {y : RefEntry} {name : BusName} {cookie : Nat} :
    (r.serviceDeleted name).entry type cookie = some y ↔
      y.connection ≠ name ∧ r.entry type cookie = some y := by
  rw [serviceDeleted, entry_removeFor, entry_removeFor]
  cases type <;> simp

theorem entry_removeCk {type : RefType} {y : RefEntry} {cookie : Nat} :
    r.removeCk.entry type cookie = some y ↔
      ¬ (type = .throttle ∧ cookie = r.ckThrottleCookie ∧ r.ckThrottleCookie ≠ 0) ∧
        r.entry type cookie = some y := by
  rw [removeCk]
  split
  · next h =>
    have hentry : ({ r.remove .throttle r.ckThrottleCookie with ckThrottleCookie := 0 } : Registry).entry type cookie
        = (r.remove .throttle r.ckThrottleCookie).entry type cookie := by
      cases type <;> rfl
    rw [hentry, entry_remove]
    simp [h]
  · next h =>
    have h0 : r.ckThrottleCookie = 0 := not_not.1 h
    simp [h0]

theorem entry_addCk {type : RefType} {x y : RefEntry} {cookie : Nat} :
    (r.addCk env x).entry type cookie = some y ↔
      (type = .throttle ∧ cookie = x.cookie ∧ x = y) ∨
      (¬ (type = .throttle ∧ cookie = x.cookie) ∧ r.entry type cookie = some y) := by
  have hentry : (r.addCk env x).entry type cookie = (r.add env .throttle x).entry type cookie := by
    cases type <;> rfl
  rw [hentry, entry_add]
  rfl

/-! ### The cookie of ConsoleKit -/

@[simp] theorem ck_change (type : RefType) (t : Table Nat RefEntry) (r : Registry) :
    (r.change type t).ckThrottleCookie = r.ckThrottleCookie := by
  cases type <;> rfl

@[simp] theorem ck_add (env : Env) (type : RefType) (x : RefEntry) (r : Registry) :
    (r.add env type x).ckThrottleCookie = r.ckThrottleCookie :=
  ck_change type _ r

@[simp] theorem ck_remove (type : RefType) (cookie : Nat) (r : Registry) :
    (r.remove type cookie).ckThrottleCookie = r.ckThrottleCookie := by
  rw [remove]
  split
  · rfl
  · exact ck_change type _ r

@[simp] theorem ck_removeFor (type : RefType) (name : BusName) (r : Registry) :
    (r.removeFor type name).ckThrottleCookie = r.ckThrottleCookie := by
  rw [removeFor]
  split
  · exact ck_change type _ r
  · rfl

@[simp] theorem ck_serviceDeleted (name : BusName) (r : Registry) :
    (r.serviceDeleted name).ckThrottleCookie = r.ckThrottleCookie := by
  rw [serviceDeleted, ck_removeFor, ck_removeFor]

@[simp] theorem ck_removeCk (r : Registry) : r.removeCk.ckThrottleCookie = 0 := by
  rw [removeCk]
  split
  · rfl
  · next h => exact not_not.1 h

@[simp] theorem ck_addCk (env : Env) (x : RefEntry) (r : Registry) :
    (r.addCk env x).ckThrottleCookie = x.cookie := rfl

/- A drawn cookie is not zero and not in use. -/
theorem draw_fresh {type : RefType} {cookie : Nat} (h : r.draw env type = some cookie) :
    cookie ≠ 0 ∧ r.entry type cookie = none := by
  obtain ⟨c, hfind, rfl⟩ := Option.map_eq_some_iff.1 h
  have hnone := List.find?_some hfind
  exact ⟨Nat.one_le_iff_ne_zero.1 c.2.1, by simpa [entry] using hnone⟩

/-! ### What every move keeps -/

/- The flag tells whether there is a throttler. -/
def Flagged (r : Registry) : Prop := r.throttled = !r.throttlers.isEmpty

/- Entries are stored under their own cookie. -/
structure Numbered (r : Registry) : Prop where
  key : ∀ type cookie x, r.entry type cookie = some x → x.cookie = cookie
  nonzero : ∀ type cookie x, r.entry type cookie = some x → cookie ≠ 0

theorem Flagged.change (h : r.Flagged) (type : RefType) (t : Table Nat RefEntry) :
    (r.change type t).Flagged := by
  cases type
  · exact h
  · rfl

theorem Flagged.remove (h : r.Flagged) (type : RefType) (cookie : Nat) : (r.remove type cookie).Flagged := by
  rw [Registry.remove]
  split
  · exact h
  · exact h.change type _

theorem Flagged.removeFor (h : r.Flagged) (type : RefType) (name : BusName) :
    (r.removeFor type name).Flagged := by
  rw [Registry.removeFor]
  split
  · exact h.change type _
  · exact h

theorem Flagged.removeCk (h : r.Flagged) : r.removeCk.Flagged := by
  rw [Registry.removeCk]
  split
  · have hrem := h.remove .throttle r.ckThrottleCookie
    exact hrem
  · exact h

theorem Flagged.add (h : r.Flagged) (env : Env) (type : RefType) (x : RefEntry) :
    (r.add env type x).Flagged :=
  h.change type _

theorem Flagged.addCk (h : r.Flagged) (env : Env) (x : RefEntry) : (r.addCk env x).Flagged := by
  have hadd := h.add env .throttle x
  exact hadd

theorem Flagged.moves (h : r.Flagged) (hm : r.Moves hears env e log u) : u.Flagged := by
  cases hm with
  | accepted fresh => exact h.add env _ _
  | cancelled type sender cookie => exact h.remove type cookie
  | ownerChanged name oldOwner newOwner => exact (h.removeFor .throttle oldOwner).removeFor .inhibit oldOwner
  | sessionActive ours => exact h.removeCk
  | sessionInactive ours fresh => exact h.removeCk.addCk env _
  | nothing he => exact h

theorem proxied_eq (env : Env) (type : RefType) (x : RefEntry) :
    ∃ c, proxied env type x = { x with foreignCookie := c } := by
  cases type with
  | throttle => exact ⟨x.foreignCookie, rfl⟩
  | inhibit =>
    cases h : env.sessionInhibit with
    | none => exact ⟨x.foreignCookie, by simp [proxied, h]⟩
    | some c => exact ⟨c, by simp [proxied, h]⟩

theorem Numbered.mono (h : r.Numbered)
    (hsub : ∀ type cookie x, u.entry type cookie = some x → r.entry type cookie = some x) : u.Numbered :=
  ⟨fun type cookie x hx => h.key type cookie x (hsub type cookie x hx),
    fun type cookie x hx => h.nonzero type cookie x (hsub type cookie x hx)⟩

theorem Numbered.moves (h : r.Numbered) (hm : r.Moves hears env e log u) : u.Numbered := by
  cases hm with
  | accepted fresh =>
    obtain ⟨hne, -⟩ := draw_fresh fresh
    refine ⟨fun type cookie x hx => ?_, fun type cookie x hx => ?_⟩
    · rcases entry_add.1 hx with ⟨-, hc, rfl⟩ | ⟨-, hx⟩
      · obtain ⟨c, hp⟩ := proxied_eq env _ (entryFor env _ _ _ _ _)
        rw [hp, hc]
      · exact h.key type cookie x hx
    · rcases entry_add.1 hx with ⟨-, hc, -⟩ | ⟨-, hx⟩
      · rw [hc]
        exact hne
      · exact h.nonzero type cookie x hx
  | cancelled type sender cookie => exact h.mono fun _ _ _ hx => (entry_remove.1 hx).2
  | ownerChanged name oldOwner newOwner => exact h.mono fun _ _ _ hx => (entry_serviceDeleted.1 hx).2
  | sessionActive ours => exact h.mono fun _ _ _ hx => (entry_removeCk.1 hx).2
  | sessionInactive ours fresh =>
    obtain ⟨hne, -⟩ := draw_fresh fresh
    refine ⟨fun type cookie x hx => ?_, fun type cookie x hx => ?_⟩
    · rcases entry_addCk.1 hx with ⟨-, hc, rfl⟩ | ⟨-, hx⟩
      · exact hc.symm
      · exact h.key type cookie x (entry_removeCk.1 hx).2
    · rcases entry_addCk.1 hx with ⟨-, hc, -⟩ | ⟨-, hx⟩
      · rw [hc]
        exact hne
      · exact h.nonzero type cookie x (entry_removeCk.1 hx).2
  | nothing he => exact h

end Registry

end MateScreensaver

import MateScreensaver.Lib.Ledger
import MateScreensaver.Throttle

/-!
What the registry promises its clients: a request stands until it is cancelled
or its requester leaves the bus. The tables are compared with the ledger of all
that was requested, cancelled and abandoned.
-/

namespace MateScreensaver
open Runs System Ledger

namespace Registry
variable {r u : Registry} {env : Env} {hears : String → Bool} {e : Event}
  {acts log : List RegistryAction}

/- A request is named by its table and its cookie. -/
abbrev Key := RefType × Nat

def Holds (r : Registry) (k : Key) (x : RefEntry) : Prop := r.entry k.1 k.2 = some x

/-! ### All clients together -/

/-- A client's request ends when anybody cancels its cookie or when the unique
name of the client leaves the bus; that of ConsoleKit when ConsoleKit takes it
back, or when its cookie is cancelled. -/
def requests : Rules RegistryAction Key RefEntry where
  accepts a k x := match a with
    | .accepted type entry => k = (type, entry.cookie) ∧ x = entry
    | .sessionChanged _ (some entry) => k = (.throttle, entry.cookie) ∧ x = entry
    | _ => False
  ends a k x := match a with
    | .cancelled type cookie _ => k = (type, cookie)
    | .departed name => x.connection = name ∧ x.fromConsoleKit = false
    | .sessionChanged cookie _ => k = (.throttle, cookie) ∧ x.fromConsoleKit = true
    | .accepted _ _ => False

/-- The signals that the registry reads as they are meant: a name that some entry
was requested under loses its owner only by leaving the bus, and it was not
ConsoleKit who had it; what ConsoleKit takes back is its own. -/
def Understands (hears : String → Bool) (r : Registry) : Event → Prop
  | .nameOwnerChanged name oldOwner newOwner => ∀ type cookie x, r.entry type cookie = some x →
      x.connection = oldOwner → (name = oldOwner ∧ newOwner = "") ∧ x.fromConsoleKit = false
  | .systemSignal _ (.ckActiveChanged path (some _)) => hears path = true →
      ∀ x, r.entry .throttle r.ckThrottleCookie = some x → x.fromConsoleKit = true
  | _ => True

theorem understands_nothing (h : concerns hears e = false) : r.Understands hears e := by
  cases e with
  | nameOwnerChanged name oldOwner newOwner => cases h
  | systemSignal sender signal =>
    cases signal with
    | ckActiveChanged path b =>
      cases b with
      | none => trivial
      | some b =>
        intro hp
        have h' : hears path = false := h
        rw [hp] at h'
        cases h'
    | _ => trivial
  | _ => trivial

theorem faithful_accepted (h : Faithful requests r.Holds log) {type : RefType} {x : RefEntry}
    (env : Env) (hfresh : r.entry type x.cookie = none) :
    Faithful requests (r.add env type x).Holds (log ++ [.accepted type (proxied env type x)]) := by
  obtain ⟨c, hp⟩ := proxied_eq env type x
  have hcookie : (proxied env type x).cookie = x.cookie := by rw [hp]
  refine h.append_one_iff.2 fun k y => ?_
  rw [Holds, entry_add]
  constructor
  · rintro (⟨ht, hc, rfl⟩ | ⟨-, hy⟩)
    · exact .inl ⟨Prod.ext ht (hc.trans hcookie.symm), rfl⟩
    · exact .inr ⟨hy, id⟩
  · rintro (⟨rfl, rfl⟩ | ⟨hy, -⟩)
    · exact .inl ⟨rfl, hcookie, rfl⟩
    · refine .inr ⟨?_, hy⟩
      rintro ⟨ht, hc⟩
      have hy' : r.entry k.1 k.2 = some y := hy
      rw [ht, hc, hfresh] at hy'
      cases hy'

theorem faithful_cancelled (h : Faithful requests r.Holds log) (type : RefType) (cookie : Nat)
    (sender : BusName) :
    Faithful requests (r.remove type cookie).Holds (log ++ [.cancelled type cookie sender]) := by
  refine h.append_one_iff.2 fun k y => ?_
  have hkey : k = (type, cookie) ↔ k.1 = type ∧ k.2 = cookie := Prod.ext_iff
  rw [Holds, entry_remove, ← hkey]
  exact ⟨fun ⟨hno, hy⟩ => .inr ⟨hy, hno⟩, fun hy => hy.elim False.elim fun ⟨hy, hno⟩ => ⟨hno, hy⟩⟩

theorem faithful_ownerChanged (h : Faithful requests r.Holds log) (name oldOwner newOwner : BusName) :
    Faithful requests (r.serviceDeleted oldOwner).Holds
      (log ++ if name = oldOwner ∧ newOwner = "" then [.departed oldOwner] else []) ↔
    r.Understands hears (.nameOwnerChanged name oldOwner newOwner) := by
  have hdel : ∀ k y, (r.serviceDeleted oldOwner).Holds k y ↔ y.connection ≠ oldOwner ∧ r.Holds k y :=
    fun k y => entry_serviceDeleted
  by_cases hgone : name = oldOwner ∧ newOwner = ""
  · rw [if_pos hgone, h.append_one_iff]
    constructor
    · intro hf type cookie x hx hname
      refine ⟨hgone, ?_⟩
      by_contra hck
      have hhold := ((hf (type, cookie) x).2 (.inr ⟨hx, fun hend => hck hend.2⟩))
      exact ((hdel _ _).1 hhold).1 hname
    · intro hc k y
      rw [hdel]
      constructor
      · rintro ⟨hne, hy⟩
        exact .inr ⟨hy, fun hend => hne hend.1⟩
      · rintro (hacc | ⟨hy, hend⟩)
        · cases hacc
        · exact ⟨fun hname => hend ⟨hname, (hc k.1 k.2 y hy hname).2⟩, hy⟩
  · rw [if_neg hgone, h.append_nil_iff]
    constructor
    · intro hf type cookie x hx hname
      exact absurd hname ((hdel _ _).1 ((hf (type, cookie) x).2 hx)).1
    · intro hc k y
      rw [hdel]
      exact ⟨And.right, fun hy => ⟨fun hname => hgone (hc k.1 k.2 y hy hname).1, hy⟩⟩

theorem holds_addCk {x : RefEntry} (env : Env) (hfresh : r.entry .throttle x.cookie = none)
    (k : Key) (y : RefEntry) : (r.addCk env x).Holds k y ↔
      (∃ z, some x = some z ∧ k = (.throttle, z.cookie) ∧ y = z) ∨ r.Holds k y := by
  rw [Holds, entry_addCk]
  constructor
  · rintro (⟨ht, hc, rfl⟩ | ⟨-, hy⟩)
    · exact .inl ⟨x, rfl, Prod.ext ht hc, rfl⟩
    · exact .inr hy
  · rintro (⟨z, hz, rfl, rfl⟩ | hy)
    · cases hz
      exact .inl ⟨rfl, rfl, rfl⟩
    · refine .inr ⟨?_, hy⟩
      rintro ⟨ht, hc⟩
      have hy' : r.entry k.1 k.2 = some y := hy
      rw [ht, hc, hfresh] at hy'
      cases hy'

/- What ConsoleKit takes back, with what it adds in its place. -/
theorem faithful_sessionChanged (hn : r.Numbered) (h : Faithful requests r.Holds log)
    (added : Option RefEntry) (hu : ∀ k y, u.Holds k y ↔
      (∃ x, added = some x ∧ k = (.throttle, x.cookie) ∧ y = x) ∨ r.removeCk.Holds k y)
    (hadded : ∀ x, added = some x → x.fromConsoleKit = true) :
    Faithful requests u.Holds (log ++ [.sessionChanged r.ckThrottleCookie added]) ↔
      ∀ x, r.entry .throttle r.ckThrottleCookie = some x → x.fromConsoleKit = true := by
  have hacc : ∀ k y, requests.accepts (.sessionChanged r.ckThrottleCookie added) k y ↔
      ∃ x, added = some x ∧ k = (.throttle, x.cookie) ∧ y = x := by
    intro k y
    cases added with
    | none => exact ⟨False.elim, fun ⟨_, h0, _⟩ => by cases h0⟩
    | some x => exact ⟨fun ha => ⟨x, rfl, ha⟩, fun ⟨_, hx, ha⟩ => by cases hx; exact ha⟩
  rw [h.append_one_iff]
  constructor
  · intro hf x hx
    by_contra hck
    have hhold := (hf (.throttle, r.ckThrottleCookie) x).2 (.inr ⟨hx, fun hend => hck hend.2⟩)
    rcases (hu _ _).1 hhold with ⟨y, hy, -, rfl⟩ | hrem
    · exact hck (hadded _ hy)
    · exact (entry_removeCk.1 hrem).1 ⟨rfl, rfl, hn.nonzero _ _ x hx⟩
  · intro hc k y
    rw [hu, hacc]
    refine or_congr_right ⟨fun hrem => ?_, fun ⟨hy, hend⟩ => ?_⟩
    · obtain ⟨hno, hy⟩ := entry_removeCk.1 hrem
      refine ⟨hy, ?_⟩
      rintro ⟨rfl, -⟩
      exact hno ⟨rfl, rfl, hn.nonzero _ _ y hy⟩
    · refine entry_removeCk.2 ⟨?_, hy⟩
      rintro ⟨ht, hcookie, -⟩
      have hk : k = (.throttle, r.ckThrottleCookie) := Prod.ext ht hcookie
      have hy' : r.entry .throttle r.ckThrottleCookie = some y := by
        have h' := hy
        rw [hk] at h'
        exact h'
      exact hend ⟨hk, hc y hy'⟩

/-- One move keeps the tables and the ledger equal exactly when the registry
understands what it is told. -/
theorem faithful_moves_iff (hn : r.Numbered) (h : Faithful requests r.Holds log)
    (hm : r.Moves hears env e acts u) :
    Faithful requests u.Holds (log ++ acts) ↔ r.Understands hears e := by
  cases hm with
  | @accepted type sender application reason cookie fresh =>
    have hf : Faithful requests _ _ := faithful_accepted h env
      (x := entryFor env type sender application reason cookie) (draw_fresh fresh).2
    have htriv : r.Understands hears (.sessionCall sender (.request type application reason)) := by
      cases type <;> trivial
    exact ⟨fun _ => htriv, fun _ => hf⟩
  | cancelled type sender cookie =>
    have htriv : r.Understands hears (.sessionCall sender (.cancel type cookie)) := by
      cases type <;> trivial
    exact ⟨fun _ => htriv, fun _ => faithful_cancelled h type cookie sender⟩
  | ownerChanged name oldOwner newOwner => exact faithful_ownerChanged h name oldOwner newOwner
  | sessionActive ours =>
    rw [faithful_sessionChanged hn h none]
    · exact ⟨fun hc _ => hc, fun hc => hc ours⟩
    · exact fun k y => ⟨.inr, fun hy => hy.elim (fun ⟨_, h0, _⟩ => by cases h0) id⟩
    · exact fun x hx => by cases hx
  | @sessionInactive sender path cookie ours fresh =>
    rw [faithful_sessionChanged hn h (some (entryForCk env sender cookie))]
    · exact ⟨fun hc _ => hc, fun hc => hc ours⟩
    · exact holds_addCk env (draw_fresh fresh).2
    · exact fun x hx => by cases hx; rfl
  | nothing he =>
    refine ⟨fun _ => understands_nothing he, fun _ => ?_⟩
    rw [List.append_nil]
    exact h

end Registry

namespace Screensaver
variable {s t : Screensaver} {env : Env} {log : List RegistryAction}

/-- The tables hold the requests that were accepted and have not ended, each under
its own cookie, which is not zero and nobody else's. -/
structure Documented (s : Screensaver) (log : List RegistryAction) : Prop where
  entries : ∀ type cookie entry, (s.listener.table type).lookup cookie = some entry ↔
    Outstanding Registry.requests log (type, cookie) entry
  key : ∀ type cookie entry, (s.listener.table type).lookup cookie = some entry → entry.cookie = cookie
  nonzero : ∀ type cookie entry, (s.listener.table type).lookup cookie = some entry → cookie ≠ 0
  unique : ∀ type cookie cookie' entry entry', (s.listener.table type).lookup cookie = some entry →
    (s.listener.table type).lookup cookie' = some entry' → entry.cookie = entry'.cookie → cookie = cookie'

theorem registry_entry (s : Screensaver) (type : RefType) (cookie : Nat) :
    s.registry.entry type cookie = (s.listener.table type).lookup cookie := by
  rw [Registry.entry, registry_table]

theorem documented_iff (hn : s.registry.Numbered) :
    s.Documented log ↔ Faithful Registry.requests s.registry.Holds log := by
  constructor
  · intro h k x
    rw [Registry.Holds, registry_entry]
    exact h.entries k.1 k.2 x
  · intro h
    have hkey : ∀ type cookie entry, (s.listener.table type).lookup cookie = some entry →
        entry.cookie = cookie := by
      intro type cookie entry hl
      exact hn.key type cookie entry ((registry_entry s type cookie).trans hl)
    refine ⟨fun type cookie entry => ?_, hkey, fun type cookie entry hl => ?_,
      fun type cookie cookie' entry entry' hl hl' hc => ?_⟩
    · rw [← registry_entry]
      exact h (type, cookie) entry
    · exact hn.nonzero type cookie entry ((registry_entry s type cookie).trans hl)
    · rw [← hkey type cookie entry hl, ← hkey type cookie' entry' hl', hc]

theorem start_holds (b : Boot) (env : Env) (k : Registry.Key) (x : RefEntry) :
    ¬ (b.start env).registry.Holds k x := by
  rw [registry_start, Registry.Holds, empty_entry]
  exact fun h => by cases h

/- The registry refines its ledger in every state of a run exactly when it
understands every signal of the run. -/
theorem documented_always (b : Boot) (env : Env) (es : List (Env × Event)) :
    (screensaver.recorded record).Always (fun s => s.1.Documented s.2) (b.start env, []) es ↔
      screensaver.Meets (fun s label => s.registry.Understands s.hearsSession label.2) (b.start env) es := by
  rw [← recorded_meets record [] es]
  refine always_iff_meets
    (I := fun s => s.1.registry.Numbered ∧ Faithful Registry.requests s.1.registry.Holds s.2)
    (fun s h => (documented_iff h.1).2 h.2) (fun s label t h ht => ?_) (fun s label t h ht hc => ?_)
    ⟨numbered_start b env, faithful_nil (start_holds b env)⟩ es
  · obtain ⟨hn, hlog⟩ := recorded_next ht
    have hm := moves_step hn
    rw [documented_iff (h.1.moves hm), hlog]
    exact Registry.faithful_moves_iff h.1 h.2 hm
  · obtain ⟨hn, hlog⟩ := recorded_next ht
    have hm := moves_step hn
    rw [hlog]
    exact ⟨h.1.moves hm, (Registry.faithful_moves_iff h.1 h.2 hm).2 hc⟩

def inhibitNow : Env × Event := (granted, .sessionCall ":1.1" (.inhibit (some ("player", "playing"))))

/- A client gives up a well-known name and stays on the bus. -/
def nameReleased : List (Env × Event) :=
  [inhibitNow, (granted, .nameOwnerChanged "org.example.Player" ":1.1" "")]

theorem request_lost : ¬ ∀ s, (screensaver.recorded record).Reachable s → s.1.Documented s.2 := by
  intro h
  let s := ((screensaver.recorded record).run (desk.start granted, []) nameReleased).get (by decide)
  have hs : (screensaver.recorded record).Reachable s :=
    recorded_reachable desk granted nameReleased (by simp [s])
  let entry := Registry.entryFor granted .inhibit ":1.1" "player" "playing" 1
  have hlog : s.2 = [.accepted .inhibit entry] := rfl
  have hout : Outstanding Registry.requests s.2 (.inhibit, 1) entry := by
    rw [hlog]
    exact ⟨[], _, [], rfl, ⟨rfl, rfl⟩, fun b hb => absurd hb List.not_mem_nil⟩
  have hlost : (s.1.listener.table .inhibit).lookup 1 = none := by decide
  have hheld := ((h s hs).entries .inhibit 1 entry).2 hout
  rw [hlost] at hheld
  cases hheld

end Screensaver
end MateScreensaver

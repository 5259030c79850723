import MateScreensaver.Lock
import MateScreensaver.RegistryRefinement

/-!
Throttling. The flag agrees with the table of throttlers in every state. The
entry that ConsoleKit adds while the session is not the active one lives in the
same table as those of the clients, and stays there only as long as no client
hits it.
-/

namespace MateScreensaver
open Runs System

namespace Screensaver
variable {s t : Screensaver} {env : Env}

/-- The listener counts as throttled exactly when there is a throttler, and the
manager has been told. -/
theorem reachable_throttled (hr : screensaver.Reachable s) :
    (s.listener.throttled = true ↔ ∃ cookie entry, s.listener.throttlers.lookup cookie = some entry) ∧
      s.saver.manager.throttled = s.listener.throttled := by
  have hflag : s.listener.throttled = !s.listener.throttlers.isEmpty := flagged_invariant.reachable hr
  refine ⟨?_, (agreed_invariant.reachable hr).throttled⟩
  constructor
  · intro h
    have hne : ¬ s.listener.throttlers.isEmpty = true := by simpa [hflag] using h
    by_contra hno
    refine hne (Table.isEmpty_iff.2 fun cookie => ?_)
    cases hl : s.listener.throttlers.lookup cookie with
    | none => rfl
    | some entry => exact absurd ⟨cookie, entry, hl⟩ hno
  · rintro ⟨cookie, entry, hl⟩
    rw [hflag]
    by_contra he
    have hempty : s.listener.throttlers.isEmpty = true := by simpa using he
    rw [Table.isEmpty_iff.1 hempty cookie] at hl
    cases hl

def throttleNow : Env × Event := (granted, .sessionCall ":1.1" (.throttle (some ("player", "playing"))))

theorem throttled_by_client : ∃ s, screensaver.run (desk.start granted) [throttleNow] = some s ∧
    s.listener.throttled = true ∧
    (s.listener.throttled = true ↔ ∃ cookie entry, s.listener.throttlers.lookup cookie = some entry) ∧
    s.saver.manager.throttled = s.listener.throttled := by
  refine ⟨(screensaver.run (desk.start granted) [throttleNow]).get (by decide), ?_, by decide, ?_⟩
  · simp
  · exact reachable_throttled (desk_reachable [throttleNow] (by simp))

end Screensaver

/-! ### ConsoleKit -/

namespace Registry
variable {r u : Registry} {env : Env} {hears : String → Bool} {e : Event} {log : List RegistryAction}

/-- The remembered cookie is that of the one entry ConsoleKit has in the table. -/
structure Remembered (r : Registry) : Prop where
  held : r.ckThrottleCookie ≠ 0 →
    ∃ x, r.entry .throttle r.ckThrottleCookie = some x ∧ x.fromConsoleKit = true
  only : ∀ cookie x, r.entry .throttle cookie = some x → x.fromConsoleKit = true →
    cookie = r.ckThrottleCookie

/-- No client cancels the entry of ConsoleKit, and no name of the session bus that
changes its owner is the name ConsoleKit has on the system bus. -/
def Spares (r : Registry) : Event → Prop
  | .sessionCall _ (.unThrottle (some cookie)) => r.ckThrottleCookie ≠ 0 → cookie ≠ r.ckThrottleCookie
  | .nameOwnerChanged _ oldOwner _ =>
    ∀ x, r.entry .throttle r.ckThrottleCookie = some x → x.connection ≠ oldOwner
  | _ => True

theorem spares_nothing (h : concerns hears e = false) : r.Spares e := by
  cases e with
  | sessionCall sender call =>
    cases call with
    | unThrottle cookie =>
      cases cookie with
      | none => trivial
      | some cookie => cases h
    | _ => trivial
  | nameOwnerChanged name oldOwner newOwner => cases h
  | _ => trivial

/- Removal leaves nothing but what was there. -/
theorem Remembered.mono (h : r.Remembered) (hck : u.ckThrottleCookie = r.ckThrottleCookie)
    (hsub : ∀ cookie x, u.entry .throttle cookie = some x → r.entry .throttle cookie = some x)
    (hheld : ∀ x, r.entry .throttle r.ckThrottleCookie = some x → r.ckThrottleCookie ≠ 0 →
      u.entry .throttle r.ckThrottleCookie = some x) : u.Remembered := by
  refine ⟨fun h0 => ?_, fun cookie x hx hck' => ?_⟩
  · rw [hck] at h0 ⊢
    obtain ⟨x, hx, hfrom⟩ := h.held h0
    exact ⟨x, hheld x hx h0, hfrom⟩
  · rw [hck]
    exact h.only cookie x (hsub cookie x hx) hck'

theorem Remembered.add (h : r.Remembered) {type : RefType} {x : RefEntry} (env : Env)
    (hfresh : r.entry type x.cookie = none) (hfrom : x.fromConsoleKit = false) :
    (r.add env type x).Remembered := by
  obtain ⟨c, hp⟩ := proxied_eq env type x
  refine ⟨fun h0 => ?_, fun cookie y hy hy' => ?_⟩
  · rw [ck_add] at h0 ⊢
    obtain ⟨y, hy, hy'⟩ := h.held h0
    refine ⟨y, entry_add.2 (.inr ⟨?_, hy⟩), hy'⟩
    rintro ⟨rfl, hc⟩
    rw [hc, hfresh] at hy
    cases hy
  · rw [ck_add]
    rcases entry_add.1 hy with ⟨-, -, rfl⟩ | ⟨-, hy⟩
    · rw [hp] at hy'
      have hy'' : x.fromConsoleKit = true := hy'
      rw [hfrom] at hy''
      cases hy''
    · exact h.only cookie y hy hy'

theorem Remembered.remove_iff (h : r.Remembered) (type : RefType) (cookie : Nat) :
    (r.remove type cookie).Remembered ↔
      (type = .throttle → r.ckThrottleCookie ≠ 0 → cookie ≠ r.ckThrottleCookie) := by
  constructor
  · rintro hu rfl h0 rfl
    have hheld := hu.held
    rw [ck_remove] at hheld
    obtain ⟨x, hx, -⟩ := hheld h0
    exact (entry_remove.1 hx).1 ⟨rfl, rfl⟩
  · intro hc
    refine h.mono (ck_remove type cookie r) (fun _ _ hx => (entry_remove.1 hx).2) fun x hx h0 => ?_
    refine entry_remove.2 ⟨?_, hx⟩
    rintro ⟨ht, heq⟩
    exact hc ht.symm h0 heq.symm

theorem Remembered.serviceDeleted_iff (hn : r.Numbered) (h : r.Remembered) (name : BusName) :
    (r.serviceDeleted name).Remembered ↔
      ∀ x, r.entry .throttle r.ckThrottleCookie = some x → x.connection ≠ name := by
  constructor
  · intro hu x hx hname
    have hheld := hu.held
    rw [ck_serviceDeleted] at hheld
    obtain ⟨y, hy, -⟩ := hheld (hn.nonzero _ _ x hx)
    obtain ⟨hne, hy⟩ := entry_serviceDeleted.1 hy
    rw [hx] at hy
    cases hy
    exact hne hname
  · intro hc
    exact h.mono (ck_serviceDeleted name r) (fun _ _ hx => (entry_serviceDeleted.1 hx).2)
      fun x hx _ => entry_serviceDeleted.2 ⟨hc x hx, hx⟩

/- Once ConsoleKit has taken its entry back there is none of it. -/
theorem Remembered.removeCk (hn : r.Numbered) (h : r.Remembered) {cookie : Nat} {x : RefEntry}
    (hx : r.removeCk.entry .throttle cookie = some x) : x.fromConsoleKit = false := by
  obtain ⟨hno, hx⟩ := entry_removeCk.1 hx
  by_contra hfrom
  have hck := h.only cookie x hx (by simpa using hfrom)
  exact hno ⟨rfl, hck, hck ▸ hn.nonzero _ _ x hx⟩

theorem Remembered.addCk (hn : r.Numbered) (h : r.Remembered) {x : RefEntry} (env : Env)
    (hfrom : x.fromConsoleKit = true) : (r.removeCk.addCk env x).Remembered := by
  refine ⟨fun _ => ⟨x, entry_addCk.2 (.inl ⟨rfl, ck_addCk env x _, rfl⟩), hfrom⟩, fun cookie y hy hy' => ?_⟩
  rcases entry_addCk.1 hy with ⟨-, hc, -⟩ | ⟨-, hy⟩
  · exact hc
  · rw [h.removeCk hn hy] at hy'
    cases hy'

/-- A move keeps the entry of ConsoleKit where it is remembered exactly when it
spares it. -/
theorem Remembered.moves_iff (hn : r.Numbered) (h : r.Remembered) (hm : r.Moves hears env e log u) :
    u.Remembered ↔ r.Spares e := by
  cases hm with
  | @accepted type sender application reason cookie fresh =>
    have hadd : (r.add env type (entryFor env type sender application reason cookie)).Remembered :=
      h.add env (draw_fresh fresh).2 rfl
    have htriv : r.Spares (.sessionCall sender (.request type application reason)) := by
      cases type <;> trivial
    exact ⟨fun _ => htriv, fun _ => hadd⟩
  | cancelled type sender cookie =>
    rw [h.remove_iff]
    cases type
    · exact ⟨fun _ => trivial, fun _ ht => absurd ht (by decide)⟩
    · exact ⟨fun hc => hc rfl, fun hc _ => hc⟩
  | ownerChanged name oldOwner newOwner => exact h.serviceDeleted_iff hn oldOwner
  | sessionActive ours =>
    refine ⟨fun _ => trivial, fun _ => ⟨fun h0 => absurd (ck_removeCk r) h0, fun cookie x hx hfrom => ?_⟩⟩
    rw [h.removeCk hn hx] at hfrom
    cases hfrom
  | sessionInactive ours fresh => exact ⟨fun _ => trivial, fun _ => h.addCk hn env rfl⟩
  | nothing he => exact ⟨fun _ => spares_nothing he, fun _ => h⟩

/- What ConsoleKit said last. -/
def toldInactive (log : List RegistryAction) : Bool :=
  log.foldl (fun b a => match a with
    | .sessionChanged _ entry => entry.isSome
    | _ => b) false

/- The cookie is remembered from the moment the session is inactive until it is
active again, whatever happens to the entry. -/
theorem Moves.remembers {before : List RegistryAction} (hm : r.Moves hears env e log u)
    (h : r.ckThrottleCookie ≠ 0 ↔ toldInactive before = true) :
    u.ckThrottleCookie ≠ 0 ↔ toldInactive (before ++ log) = true := by
  cases hm with
  | accepted fresh => simpa [toldInactive] using h
  | cancelled type sender cookie => simpa [toldInactive] using h
  | ownerChanged name oldOwner newOwner =>
    rw [ck_serviceDeleted]
    split <;> simpa [toldInactive] using h
  | sessionActive ours => simp [toldInactive]
  | sessionInactive ours fresh => simpa [toldInactive, entryForCk, entryFor] using (draw_fresh fresh).1
  | nothing he => simpa [toldInactive] using h

end Registry

namespace Screensaver
variable {s t : Screensaver} {env : Env} {log : List RegistryAction}

/-- The remembered cookie is set exactly when the entry of ConsoleKit is in the
table, under that cookie, and while the session is not the active one the saver
is throttled. -/
structure SessionThrottled (s : Screensaver) (log : List RegistryAction) : Prop where
  held : s.listener.ckThrottleCookie ≠ 0 ↔ ∃ entry, entry.fromConsoleKit = true ∧
    s.listener.throttlers.lookup s.listener.ckThrottleCookie = some entry
  only : ∀ cookie entry, s.listener.throttlers.lookup cookie = some entry →
    entry.fromConsoleKit = true → cookie = s.listener.ckThrottleCookie
  throttled : Registry.toldInactive log = true →
    s.listener.throttled = true ∧ s.saver.manager.throttled = true

/- What holds whether or not the entry is still there. -/
structure Followed (s : Screensaver) (log : List RegistryAction) : Prop where
  agreed : s.Agreed
  flagged : s.registry.Flagged
  numbered : s.registry.Numbered
  session : s.registry.ckThrottleCookie ≠ 0 ↔ Registry.toldInactive log = true

theorem Followed.step {label : Env × Event} (h : s.Followed log) (hn : s.step label = some t) :
    t.Followed (log ++ s.record label) := by
  have hm := moves_step hn
  exact ⟨agreed_invariant.step s label t h.agreed hn, h.flagged.moves hm, h.numbered.moves hm,
    hm.remembers h.session⟩

theorem sessionThrottled_iff (h : s.Followed log) : s.SessionThrottled log ↔ s.registry.Remembered := by
  constructor
  · intro ht
    refine ⟨fun h0 => ?_, ht.only⟩
    obtain ⟨entry, hfrom, hl⟩ := ht.held.1 h0
    exact ⟨entry, hl, hfrom⟩
  · intro hr
    have hheld : s.listener.ckThrottleCookie ≠ 0 → ∃ entry, entry.fromConsoleKit = true ∧
        s.listener.throttlers.lookup s.listener.ckThrottleCookie = some entry := by
      intro h0
      obtain ⟨x, hx, hfrom⟩ := hr.held h0
      exact ⟨x, hfrom, hx⟩
    refine ⟨⟨hheld, fun ⟨entry, _, hl⟩ => h.numbered.nonzero .throttle _ entry hl⟩, hr.only, fun hin => ?_⟩
    obtain ⟨entry, -, hl⟩ := hheld (h.session.2 hin)
    have hflag : s.listener.throttled = !s.listener.throttlers.isEmpty := h.flagged
    have hne : ¬ s.listener.throttlers.isEmpty = true := by
      intro he
      rw [Table.isEmpty_iff.1 he] at hl
      cases hl
    have hthr : s.listener.throttled = true := by simpa [hflag] using hne
    exact ⟨hthr, h.agreed.throttled.trans hthr⟩

theorem followed_start (b : Boot) (env : Env) : (b.start env).Followed [] := by
  refine ⟨(start_agreed b env).1, ?_, numbered_start b env, ?_⟩
  · rw [registry_start]
    rfl
  · rw [registry_start]
    exact ⟨fun h => absurd rfl h, fun h => by cases h⟩

/- In every state of a run the saver is throttled for ConsoleKit as it should be,
exactly when every step of the run spares the entry of ConsoleKit. -/
theorem sessionThrottled_always (b : Boot) (env : Env) (es : List (Env × Event)) :
    (screensaver.recorded record).Always (fun s => s.1.SessionThrottled s.2) (b.start env, []) es ↔
      screensaver.Meets (fun s label => s.registry.Spares label.2) (b.start env) es := by
  have hstart := followed_start b env
  have hr : (b.start env).registry.Remembered := by
    rw [registry_start]
    refine ⟨fun h => absurd rfl h, fun cookie x hx _ => ?_⟩
    rw [empty_entry] at hx
    cases hx
  rw [← recorded_meets record [] es]
  refine always_iff_meets (I := fun s => s.1.Followed s.2 ∧ s.1.registry.Remembered)
    (fun s h => (sessionThrottled_iff h.1).2 h.2) (fun s label t h ht => ?_) (fun s label t h ht hc => ?_)
    ⟨hstart, hr⟩ es
  · obtain ⟨hn, hlog⟩ := recorded_next ht
    have hf := h.1.step hn
    rw [← hlog] at hf
    rw [sessionThrottled_iff hf]
    exact h.2.moves_iff h.1.numbered (moves_step hn)
  · obtain ⟨hn, hlog⟩ := recorded_next ht
    have hf := h.1.step hn
    rw [← hlog] at hf
    exact ⟨hf, (h.2.moves_iff h.1.numbered (moves_step hn)).2 hc⟩

/- ConsoleKit reports from the system bus under the name that a client of the
session bus has there, and that client leaves. -/
def seat : Boot := { desk with config := ⟨true, true⟩, haveSystemd := false }

def switchedAway : List (Env × Event) :=
  [(granted, .systemSignal ":1.5" (.ckActiveChanged "/session" (some false))),
   (granted, .nameOwnerChanged ":1.5" ":1.5" "")]

theorem session_unthrottled : ¬ ∀ s, (screensaver.recorded record).Reachable s → s.1.SessionThrottled s.2 := by
  intro h
  let s := ((screensaver.recorded record).run (seat.start granted, []) switchedAway).get (by decide)
  have hs : (screensaver.recorded record).Reachable s :=
    recorded_reachable seat granted switchedAway (by simp [s])
  have hthr := ((h s hs).throttled (by decide)).1
  exact absurd hthr (by decide)

end Screensaver
end MateScreensaver

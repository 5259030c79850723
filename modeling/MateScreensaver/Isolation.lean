import MateScreensaver.Clients

/-!
One client's view of the registry. Its entries should depend on nothing but what
it did itself; the calls that cancel do not look at who sends them.
-/

namespace MateScreensaver
open Runs System Ledger

namespace Registry
variable {r u : Registry} {env : Env} {hears : String → Bool} {e : Event}
  {acts log : List RegistryAction} {c : BusName}

/- An entry that the client requested. -/
def Owns (c : BusName) (r : Registry) (k : Key) (x : RefEntry) : Prop :=
  r.Holds k x ∧ x.connection = c ∧ x.fromConsoleKit = false

/-- What the client itself does: request, cancel, leave the bus. -/
def ownRequests (c : BusName) : Rules RegistryAction Key RefEntry where
  accepts a k x := match a with
    | .accepted type entry => entry.connection = c ∧ k = (type, entry.cookie) ∧ x = entry
    | _ => False
  ends a k _ := match a with
    | .cancelled type cookie sender => sender = c ∧ k = (type, cookie)
    | .departed name => name = c
    | _ => False

/- The actions of the client. -/
def own (c : BusName) : RegistryAction → Bool
  | .accepted _ entry => entry.connection = c
  | .cancelled _ _ sender => sender = c
  | .departed name => name = c
  | .sessionChanged _ _ => false

/-- Nobody else cancels a cookie of the client, no name passes away from the client
while it stays on the bus, and ConsoleKit takes nothing of the client's. -/
def Respects (c : BusName) (hears : String → Bool) (r : Registry) : Event → Prop
  | .sessionCall sender (.unInhibit (some cookie)) => sender ≠ c → ∀ x, ¬ r.Owns c (.inhibit, cookie) x
  | .sessionCall sender (.unThrottle (some cookie)) => sender ≠ c → ∀ x, ¬ r.Owns c (.throttle, cookie) x
  | .nameOwnerChanged name oldOwner newOwner => oldOwner = c → ¬ (name = oldOwner ∧ newOwner = "") →
      ∀ k x, ¬ r.Owns c k x
  | .systemSignal _ (.ckActiveChanged path (some _)) => hears path = true →
      ∀ x, ¬ r.Owns c (.throttle, r.ckThrottleCookie) x
  | _ => True

theorem respects_nothing (h : concerns hears e = false) : r.Respects c hears e := by
  cases e with
  | nameOwnerChanged name oldOwner newOwner => cases h
  | sessionCall sender call =>
    cases call with
    | unInhibit cookie =>
      cases cookie with
      | none => trivial
      | some cookie => cases h
    | unThrottle cookie =>
      cases cookie with
      | none => trivial
      | some cookie => cases h
    | _ => trivial
  | systemSignal sender signal =>
    cases signal with
    | ckActiveChanged path b =>
      cases b with
      | none => trivial
      | some b =>
        intro hp
        have h' : hears path = false := h
        rw [hp] at h'
        cases h'
    | _ => trivial
  | _ => trivial

theorem respects_cancel {type : RefType} {sender : BusName} {cookie : Nat} :
    r.Respects c hears (.sessionCall sender (.cancel type cookie)) ↔
      (sender ≠ c → ∀ x, ¬ r.Owns c (type, cookie) x) := by
  cases type <;> exact Iff.rfl

theorem isolated_accepted (h : Faithful (ownRequests c) (r.Owns c) log) {type : RefType} {x : RefEntry}
    (env : Env) (hfresh : r.entry type x.cookie = none) (hfrom : x.fromConsoleKit = false) :
    Faithful (ownRequests c) ((r.add env type x).Owns c)
      (log ++ [.accepted type (proxied env type x)]) := by
  obtain ⟨n, hp⟩ := proxied_eq env type x
  refine h.append_one_iff.2 fun k y => ?_
  have hadd : (r.add env type x).Holds k y ↔ _ := entry_add
  constructor
  · rintro ⟨hy, hc, hck⟩
    rcases hadd.1 hy with ⟨ht, hcookie, rfl⟩ | ⟨-, hy⟩
    · exact .inl ⟨hc, Prod.ext ht (by rw [hcookie, hp]), rfl⟩
    · exact .inr ⟨⟨hy, hc, hck⟩, id⟩
  · rintro (⟨hc, rfl, rfl⟩ | ⟨⟨hy, hc, hck⟩, -⟩)
    · refine ⟨hadd.2 (.inl ⟨rfl, by rw [hp], rfl⟩), hc, ?_⟩
      rw [hp]
      exact hfrom
    · refine ⟨hadd.2 (.inr ⟨?_, hy⟩), hc, hck⟩
      rintro ⟨ht, hcookie⟩
      have hy' : r.entry k.1 k.2 = some y := hy
      rw [ht, hcookie, hfresh] at hy'
      cases hy'

theorem isolated_cancelled (h : Faithful (ownRequests c) (r.Owns c) log) (type : RefType) (cookie : Nat)
    (sender : BusName) :
    Faithful (ownRequests c) ((r.remove type cookie).Owns c) (log ++ [.cancelled type cookie sender]) ↔
      (sender ≠ c → ∀ x, ¬ r.Owns c (type, cookie) x) := by
  have hrem : ∀ k y, (r.remove type cookie).Owns c k y ↔ k ≠ (type, cookie) ∧ r.Owns c k y := by
    intro k y
    have hkey : k = (type, cookie) ↔ k.1 = type ∧ k.2 = cookie := Prod.ext_iff
    rw [Owns, Holds, entry_remove, ← hkey]
    exact and_assoc
  rw [h.append_one_iff]
  constructor
  · intro hf hs x hx
    exact ((hrem _ _).1 ((hf _ x).2 (.inr ⟨hx, fun hend => hs hend.1⟩))).1 rfl
  · intro hc k y
    rw [hrem]
    constructor
    · rintro ⟨hne, hy⟩
      exact .inr ⟨hy, fun hend => hne hend.2⟩
    · rintro (hacc | ⟨hy, hend⟩)
      · cases hacc
      · refine ⟨?_, hy⟩
        rintro rfl
        by_cases hs : sender = c
        · exact hend ⟨hs, rfl⟩
        · exact hc hs y hy

theorem isolated_ownerChanged (h : Faithful (ownRequests c) (r.Owns c) log)
    (name oldOwner newOwner : BusName) :
    Faithful (ownRequests c) ((r.serviceDeleted oldOwner).Owns c)
      (log ++ if name = oldOwner ∧ newOwner = "" then [.departed oldOwner] else []) ↔
    r.Respects c hears (.nameOwnerChanged name oldOwner newOwner) := by
  have hdel : ∀ k y, (r.serviceDeleted oldOwner).Owns c k y ↔ oldOwner ≠ c ∧ r.Owns c k y := by
    intro k y
    rw [Owns, Holds, entry_serviceDeleted]
    constructor
    · rintro ⟨⟨hne, hy⟩, rfl, hck⟩
      exact ⟨fun hold => hne hold.symm, hy, rfl, hck⟩
    · rintro ⟨hne, hy, rfl, hck⟩
      exact ⟨⟨fun hold => hne hold.symm, hy⟩, rfl, hck⟩
  by_cases hgone : name = oldOwner ∧ newOwner = ""
  · rw [if_pos hgone, h.append_one_iff]
    refine ⟨fun _ _ hno => absurd hgone hno, fun _ k y => ?_⟩
    rw [hdel]
    constructor
    · rintro ⟨hne, hy⟩
      exact .inr ⟨hy, hne⟩
    · rintro (hno | ⟨hy, hne⟩)
      · exact hno.elim
      · exact ⟨hne, hy⟩
  · rw [if_neg hgone, h.append_nil_iff]
    constructor
    · intro hf hold _ k x hx
      exact ((hdel k x).1 ((hf k x).2 hx)).1 hold
    · intro hc k y
      rw [hdel]
      exact ⟨And.right, fun hy => ⟨fun hold => hc hold hgone k y hy, hy⟩⟩

theorem isolated_sessionChanged (hn : r.Numbered) (h : Faithful (ownRequests c) (r.Owns c) log)
    (added : Option RefEntry) (hu : ∀ k y, u.Owns c k y ↔ r.removeCk.Owns c k y) :
    Faithful (ownRequests c) (u.Owns c) (log ++ [.sessionChanged r.ckThrottleCookie added]) ↔
      ∀ x, ¬ r.Owns c (.throttle, r.ckThrottleCookie) x := by
  have hrem : ∀ k y, r.removeCk.Owns c k y ↔
      ¬ (k.1 = .throttle ∧ k.2 = r.ckThrottleCookie ∧ r.ckThrottleCookie ≠ 0) ∧ r.Owns c k y := by
    intro k y
    rw [Owns, Holds, entry_removeCk]
    exact and_assoc
  rw [h.append_one_iff]
  constructor
  · intro hf x hx
    have hkept := (hu _ _).1 ((hf _ x).2 (.inr ⟨hx, id⟩))
    exact ((hrem _ _).1 hkept).1 ⟨rfl, rfl, hn.nonzero _ _ x hx.1⟩
  · intro hc k y
    rw [hu, hrem]
    constructor
    · rintro ⟨-, hy⟩
      exact .inr ⟨hy, id⟩
    · rintro (hacc | ⟨hy, -⟩)
      · cases hacc
      · refine ⟨?_, hy⟩
        rintro ⟨ht, hcookie, -⟩
        have hk : k = (.throttle, r.ckThrottleCookie) := Prod.ext ht hcookie
        exact hc y (hk ▸ hy)

theorem owns_addCk {x : RefEntry} (env : Env) (hfresh : r.entry .throttle x.cookie = none)
    (hfrom : x.fromConsoleKit = true) (k : Key) (y : RefEntry) :
    (r.addCk env x).Owns c k y ↔ r.Owns c k y := by
  rw [Owns, holds_addCk env hfresh]
  constructor
  · rintro ⟨⟨z, hz, -, rfl⟩ | hy, hc, hck⟩
    · cases hz
      rw [hfrom] at hck
      cases hck
    · exact ⟨hy, hc, hck⟩
  · rintro ⟨hy, hc, hck⟩
    exact ⟨.inr hy, hc, hck⟩

/-- One move leaves the client's entries to the client exactly when it respects
them. -/
theorem isolated_moves_iff (hn : r.Numbered) (h : Faithful (ownRequests c) (r.Owns c) log)
    (hm : r.Moves hears env e acts u) :
    Faithful (ownRequests c) (u.Owns c) (log ++ acts) ↔ r.Respects c hears e := by
  cases hm with
  | @accepted type sender application reason cookie fresh =>
    have hf : Faithful (ownRequests c) _ _ := isolated_accepted h env
      (x := entryFor env type sender application reason cookie) (draw_fresh fresh).2 rfl
    have htriv : r.Respects c hears (.sessionCall sender (.request type application reason)) := by
      cases type <;> trivial
    exact ⟨fun _ => htriv, fun _ => hf⟩
  | cancelled type sender cookie => exact (isolated_cancelled h type cookie sender).trans respects_cancel.symm
  | ownerChanged name oldOwner newOwner => exact isolated_ownerChanged h name oldOwner newOwner
  | sessionActive ours =>
    rw [isolated_sessionChanged hn h none fun _ _ => Iff.rfl]
    exact ⟨fun hc _ => hc, fun hc => hc ours⟩
  | @sessionInactive sender path cookie ours fresh =>
    rw [isolated_sessionChanged hn h (some (entryForCk env sender cookie))
      (owns_addCk env (draw_fresh fresh).2 rfl)]
    exact ⟨fun hc _ => hc, fun hc => hc ours⟩
  | nothing he =>
    refine ⟨fun _ => respects_nothing he, fun _ => ?_⟩
    rw [List.append_nil]
    exact h

/- The ledger of a client looks at the client's own actions only. -/
theorem outstanding_own {k : Key} {x : RefEntry} : Outstanding (ownRequests c) (log.filter (own c)) k x ↔
    Outstanding (ownRequests c) log k x := by
  refine outstanding_filter fun a ha => ?_
  cases a with
  | accepted type entry =>
    have hne : entry.connection ≠ c := by simpa [own] using ha
    exact ⟨fun hacc => hne hacc.1, id⟩
  | cancelled type cookie sender =>
    have hne : sender ≠ c := by simpa [own] using ha
    exact ⟨id, fun hend => hne hend.1⟩
  | departed name =>
    have hne : name ≠ c := by simpa [own] using ha
    exact ⟨id, hne⟩
  | sessionChanged cookie entry => exact ⟨id, id⟩

end Registry

namespace Screensaver
variable {s t : Screensaver} {env : Env} {log : List RegistryAction}

/-- The entries of a client are those it requested and has neither cancelled nor
left behind on leaving the bus. -/
def Isolated (c : BusName) (s : Screensaver) (log : List RegistryAction) : Prop :=
  Faithful (Registry.ownRequests c) (s.registry.Owns c) log

/- An inhibitor of the client stands, so that nothing is activated by idleness. -/
def BlockedBy (c : BusName) (s : Screensaver) : Prop := ∃ cookie x, s.registry.Owns c (.inhibit, cookie) x

def RespectsClient (c : BusName) (s : Screensaver) (label : Env × Event) : Prop :=
  s.registry.Respects c s.hearsSession label.2

theorem isolated_step {c : BusName} {label : Env × Event} (hn : s.registry.Numbered)
    (h : s.Isolated c log) (ht : s.step label = some t) :
    t.Isolated c (log ++ s.record label) ↔ s.RespectsClient c label :=
  Registry.isolated_moves_iff hn h (moves_step ht)

theorem isolated_start (c : BusName) (b : Boot) (env : Env) : (b.start env).Isolated c [] :=
  faithful_nil fun k x hx => start_holds b env k x (And.left hx)

theorem isolated_always (c : BusName) (b : Boot) (env : Env) (es : List (Env × Event)) :
    (screensaver.recorded record).Always (fun s => s.1.Isolated c s.2) (b.start env, []) es ↔
      screensaver.Meets (RespectsClient c) (b.start env) es := by
  let I (s : Screensaver × List RegistryAction) : Prop := s.1.registry.Numbered ∧ s.1.Isolated c s.2
  have h0 : I (b.start env, []) := ⟨numbered_start b env, isolated_start c b env⟩
  rw [← recorded_meets record [] es]
  refine always_iff_meets (I := I) (fun s h => h.2) (fun s label t h ht => ?_)
    (fun s label t h ht hc => ?_) h0 es
  · obtain ⟨hn, hlog⟩ := recorded_next ht
    rw [hlog]
    exact isolated_step h.1 h.2 hn
  · obtain ⟨hn, hlog⟩ := recorded_next ht
    have hstep := (isolated_step h.1 h.2 hn).2 hc
    rw [← hlog] at hstep
    exact ⟨h.1.moves (moves_step hn), hstep⟩

/- Whatever the others do, equal actions of the client leave it equal entries. -/
theorem isolated_agree {c : BusName} {x y : Screensaver × List RegistryAction} (hx : x.1.Isolated c x.2)
    (hy : y.1.Isolated c y.2) (h : x.2.filter (Registry.own c) = y.2.filter (Registry.own c))
    (k : Registry.Key) (entry : RefEntry) : x.1.registry.Owns c k entry ↔ y.1.registry.Owns c k entry := by
  rw [hx k entry, hy k entry, ← Registry.outstanding_own, h, Registry.outstanding_own]

/-- A client is isolated in every state of a run exactly when every step of the run
respects it; and two such runs with equal actions of the client end with equal
entries of it, and with both or neither of them blocked. -/
theorem clients_isolated (c : BusName) :
    (∀ (b : Boot) (env : Env) (es : List (Env × Event)),
      (screensaver.recorded record).Always (fun s => s.1.Isolated c s.2) (b.start env, []) es ↔
        screensaver.Meets (RespectsClient c) (b.start env) es) ∧
    ∀ (b b' : Boot) (env env' : Env) (es es' : List (Env × Event)) (x y : Screensaver × List RegistryAction),
      screensaver.Meets (RespectsClient c) (b.start env) es →
      screensaver.Meets (RespectsClient c) (b'.start env') es' →
      (screensaver.recorded record).run (b.start env, []) es = some x →
      (screensaver.recorded record).run (b'.start env', []) es' = some y →
      x.2.filter (Registry.own c) = y.2.filter (Registry.own c) →
      (∀ k entry, x.1.registry.Owns c k entry ↔ y.1.registry.Owns c k entry) ∧
        (x.1.BlockedBy c ↔ y.1.BlockedBy c) := by
  refine ⟨isolated_always c, fun b b' env env' es es' x y hes hes' hx hy hown => ?_⟩
  have hagree := isolated_agree (((isolated_always c b env es).2 hes).run hx)
    (((isolated_always c b' env' es').2 hes').run hy) hown
  exact ⟨hagree, exists_congr fun cookie => exists_congr fun entry => hagree (.inhibit, cookie) entry⟩

/- Another client cancels the cookie. -/
def cancelledByOther : List (Env × Event) :=
  [inhibitNow, (granted, .sessionCall ":1.2" (.unInhibit (some 1)))]

theorem inhibitor_stolen :
    ¬ ∀ c s, (screensaver.recorded record).Reachable s → s.1.Isolated c s.2 := by
  intro h
  let s := ((screensaver.recorded record).run (desk.start granted, []) cancelledByOther).get (by decide)
  have hs : (screensaver.recorded record).Reachable s :=
    recorded_reachable desk granted cancelledByOther (by simp [s])
  let entry := Registry.entryFor granted .inhibit ":1.1" "player" "playing" 1
  have hlog : s.2 = [.accepted .inhibit entry, .cancelled .inhibit 1 ":1.2"] := rfl
  have hout : Outstanding (Registry.ownRequests ":1.1") s.2 (.inhibit, 1) entry := by
    rw [hlog]
    refine ⟨[], _, [.cancelled .inhibit 1 ":1.2"], rfl, ⟨rfl, rfl, rfl⟩, fun b hb hend => ?_⟩
    rw [List.mem_singleton.1 hb] at hend
    exact absurd hend.1 (by decide)
  have hgone : s.1.registry.entry .inhibit 1 = none := by decide
  have hheld : s.1.registry.entry .inhibit 1 = some entry := ((h ":1.1" s hs (.inhibit, 1) entry).2 hout).1
  rw [hgone] at hheld
  cases hheld

end Screensaver
end MateScreensaver

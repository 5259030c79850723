import MateScreensaver.Dispatch
import MateScreensaver.Lock

/-!
The listener's own account of activity: when it became active and when the
session became idle, and why it turned active where nobody asked for it.
-/

namespace MateScreensaver
open Runs

namespace GSListener

/-- The start times say the same as the flags, and an active listener is idle. -/
structure Timed (l : GSListener) : Prop where
  active : l.active = true ↔ l.activeStart ≠ 0
  idle : l.sessionIdle = true ↔ l.sessionIdleStart ≠ 0
  both : l.active = true → l.sessionIdle = true

/-- What gs_listener_set_active can do to the listener, with its result and the
record of the activation. -/
inductive Turned (env : Env) (l : GSListener) : Bool → Bool → GSListener → List GSListener → Prop
  | same {b : Bool} (h : l.active = b) : Turned env l b false l []
  | refused (h : l.active = false) :
      Turned env l true false { l with sessionIdle := false, sessionIdleStart := 0 } []
  | kept (h : l.active = true) : Turned env l false false l []
  | started (h : l.active = false) : Turned env l true true { l with
      active := true, sessionIdle := true, activeStart := env.time
      sessionIdleStart := if l.sessionIdle then l.sessionIdleStart else env.time } [l]
  | stopped (h : l.active = true) : Turned env l false true { l with
      active := false, sessionIdle := false, activeStart := 0
      sessionIdleStart := if l.sessionIdle then 0 else l.sessionIdleStart } []

variable {env : Env} {l l' : GSListener} {b res : Bool} {new : List GSListener}

theorem Turned.timed (h : l.Timed) (ht : Turned env l b res l' new) : l'.Timed := by
  have htime : env.time ≠ 0 := env.time_pos.ne'
  cases ht with
  | same hb => exact h
  | refused hoff =>
    refine ⟨h.active, by simp, fun hon => ?_⟩
    have hon' : l.active = true := hon
    rw [hoff] at hon'
    cases hon'
  | kept hon => exact h
  | started hoff =>
    refine ⟨by simp [htime], ?_, fun _ => rfl⟩
    cases hidle : l.sessionIdle
    · simp [htime]
    · have hstart := h.idle.1 hidle
      simp [hstart]
  | stopped hon =>
    refine ⟨by simp, ?_, fun h0 => (nomatch h0)⟩
    have hidle := h.both hon
    simp [hidle]

/- Only an activation makes an inactive listener active. -/
theorem Turned.recorded (ht : Turned env l b res l' new) (hoff : l.active = false) (hon : l'.active = true) :
    new ≠ [] := by
  cases ht with
  | same hb =>
    rw [hoff] at hon
    cases hon
  | refused h =>
    have hon' : l.active = true := hon
    rw [hoff] at hon'
    cases hon'
  | kept h =>
    rw [hoff] at hon
    cases hon
  | started h => exact List.cons_ne_nil l []
  | stopped h => cases hon

theorem Turned.new_eq (ht : Turned env l b res l' new) : ∀ x ∈ new, x = l ∧ l.active = false := by
  intro x hx
  cases ht with
  | started h =>
    obtain rfl := List.mem_singleton.1 hx
    exact ⟨rfl, h⟩
  | same h => cases hx
  | refused h => cases hx
  | kept h => cases hx
  | stopped h => cases hx

end GSListener

namespace Screensaver
open GSListener (Timed Turned)

variable {p : Prop} {env : Env} {s₀ s t u : Screensaver} {e : Event}

theorem turned_setActive (env : Env) (s : Screensaver) (b : Bool) :
    ∃ new, Turned env s.listener b (s.gsListenerSetActive env b).1 (s.gsListenerSetActive env b).2.listener new ∧
      (s.gsListenerSetActive env b).2.activations = s.activations ++ new := by
  have hcb : (s.listenerActiveChangedCb env b).2.listener = s.listener ∧
      (s.listenerActiveChangedCb env b).2.activations = s.activations := by
    simp only [listenerActiveChangedCb]
    split
    · exact ⟨rfl, rfl⟩
    · exact ⟨rfl, rfl⟩
  simp only [gsListenerSetActive]
  split
  · next hsame => exact ⟨[], .same hsame, (List.append_nil _).symm⟩
  · next hne =>
    generalize s.listenerActiveChangedCb env b = x at hcb ⊢
    obtain ⟨res, u⟩ := x
    obtain ⟨hl, ha⟩ := hcb
    dsimp only at hl ha ⊢
    cases b
    · have hon : s.listener.active = true := by simpa using hne
      cases res
      · refine ⟨[], ?_, by simpa using ha⟩
        have hkept : Turned env s.listener false false _ [] := .kept hon
        simpa [hl] using hkept
      · refine ⟨[], ?_, ?_⟩
        · have hstopped : Turned env s.listener false true _ [] := .stopped hon
          simp only [Bool.not_true, Bool.false_eq_true, if_false, listenerSetActiveInternal_eq, hl]
          cases hidle : s.listener.sessionIdle
          · simpa [hidle] using hstopped
          · simpa [hidle] using hstopped
        · simpa [listenerSetActiveInternal_eq] using ha
    · have hoff : s.listener.active = false := by simpa using hne
      cases res
      · refine ⟨[], ?_, by simpa [listenerSetSessionIdleInternal, modifyListener] using ha⟩
        have hrefused : Turned env s.listener true false _ [] := .refused hoff
        simpa [listenerSetSessionIdleInternal, modifyListener, hl] using hrefused
      · refine ⟨[s.listener], ?_, ?_⟩
        · have hstarted : Turned env s.listener true true _ [s.listener] := .started hoff
          simp only [Bool.not_true, Bool.false_eq_true, if_false, if_true, listenerSetActiveInternal_eq, hl]
          cases hidle : s.listener.sessionIdle
          · simpa [hidle] using hstarted
          · simpa [hidle] using hstarted
        · simp only [Bool.not_true, Bool.false_eq_true, if_false, if_true, listenerSetActiveInternal_eq, ha]

/-- Every activation on the way was by a listener that would, and an inactive
listener did not become active without one. -/
structure Heeds (s t : Screensaver) (new : List GSListener) : Prop where
  activations : t.activations = s.activations ++ new
  willing : ∀ l ∈ new, l.active = false ∧ l.Willing
  recorded : s.listener.active = false → t.listener.active = true → new ≠ []

theorem Heeds.same (ha : t.activations = s.activations) (hl : t.listener.active = s.listener.active) :
    Heeds s t [] := by
  refine ⟨by rw [ha, List.append_nil], fun l hl => ?_, fun hoff hon => ?_⟩
  · cases hl
  · rw [hl, hoff] at hon
    cases hon

theorem Heeds.trans {new new' : List GSListener} (h : Heeds s t new) (h' : Heeds t u new') :
    Heeds s u (new ++ new') where
  activations := by rw [h'.activations, h.activations, List.append_assoc]
  willing l hl := by
    rcases List.mem_append.1 hl with hl | hl
    · exact h.willing l hl
    · exact h'.willing l hl
  recorded hoff hon hnil := by
    obtain ⟨hnew, hnew'⟩ := List.append_eq_nil_iff.1 hnil
    cases hmid : t.listener.active
    · exact h'.recorded hmid hon hnew'
    · exact h.recorded hoff hmid hnew

theorem heeds_activate (h : s.listener.Willing) : ∃ new, Heeds s (s.gsListenerSetActive env true).2 new := by
  obtain ⟨new, ht, ha⟩ := turned_setActive env s true
  refine ⟨new, ha, fun l hl => ?_, ht.recorded⟩
  obtain ⟨rfl, hoff⟩ := ht.new_eq l hl
  exact ⟨hoff, h⟩

theorem heeds_deactivate (s : Screensaver) : ∃ new, Heeds s (s.gsListenerSetActive env false).2 new := by
  obtain ⟨new, ht, ha⟩ := turned_setActive env s false
  refine ⟨new, ha, fun l hl => ?_, ht.recorded⟩
  generalize (s.gsListenerSetActive env false).1 = res at ht
  generalize (s.gsListenerSetActive env false).2.listener = l' at ht
  cases ht with
  | same h => cases hl
  | kept h => cases hl
  | stopped h => cases hl

/- The idle flag is set before the activation is tried. -/
def onTrial (b : Bool) (s : Screensaver) : Screensaver := s.modifyListener fun l => { l with sessionIdle := b }

theorem timed_setSessionIdle (h : s.listener.Timed) (off : s.listener.active = false) (b : Bool) :
    ((s.onTrial b).listenerSetSessionIdleInternal env b).listener.Timed := by
  refine ⟨h.active, ?_, fun hon => ?_⟩
  · show b = true ↔ (if b then env.time else 0) ≠ 0
    cases b
    · simp
    · simp [env.time_pos.ne']
  · have hon' : s.listener.active = true := hon
    rw [off] at hon'
    cases hon'

/- And it is taken back when the activation fails. -/
theorem trial_timed (h : s.listener.Timed) (off : s.listener.active = false)
    (willing : (s.onTrial true).listener.Willing) :
    let x := (s.onTrial true).gsListenerSetActive env true
    let r := if x.1 then (true, x.2.listenerSetSessionIdleInternal env true)
      else (false, x.2.modifyListener fun l => { l with sessionIdle := !true })
    r.2.listener.Timed ∧ ∃ new, Heeds s r.2 new := by
  obtain ⟨new, ht, ha⟩ := turned_setActive env (s.onTrial true) true
  have hnew : ∀ l ∈ new, l.active = false ∧ l.Willing := by
    intro l hl
    obtain ⟨rfl, hoff⟩ := ht.new_eq l hl
    exact ⟨hoff, willing⟩
  generalize (s.onTrial true).gsListenerSetActive env true = x at ht ha
  obtain ⟨res, u⟩ := x
  dsimp only at ht ha ⊢
  generalize hu : u.listener = l' at ht
  cases ht with
  | same hon =>
    have hon' : s.listener.active = true := hon
    rw [off] at hon'
    cases hon'
  | refused hl =>
    have hkept : (u.modifyListener fun l => { l with sessionIdle := false }).listener =
        { s.listener with sessionIdle := false, sessionIdleStart := 0 } := by
      simp [modifyListener, hu, onTrial]
    refine ⟨?_, [], ha, hnew, fun _ hon => ?_⟩
    · show (u.modifyListener fun l => { l with sessionIdle := false }).listener.Timed
      have hrefused : Turned env s.listener true false _ [] := .refused off
      rw [hkept]
      exact hrefused.timed h
    · have hon' : (u.modifyListener fun l => { l with sessionIdle := false }).listener.active = true := hon
      rw [hkept] at hon'
      exact absurd hon' (by simp [off])
  | started hl =>
    refine ⟨⟨?_, ?_, fun _ => rfl⟩, [_], ha, hnew, fun _ _ => List.cons_ne_nil _ _⟩
    · simp [listenerSetSessionIdleInternal, modifyListener, hu, env.time_pos.ne']
    · simp [listenerSetSessionIdleInternal, modifyListener, env.time_pos.ne']

theorem idle_timed (b : Bool) (h : s.listener.Timed) (off : b = false → s.listener.active = false) :
    (s.gsListenerSetSessionIdle env b).2.listener.Timed ∧
    ∃ new, Heeds s (s.gsListenerSetSessionIdle env b).2 new := by
  simp only [gsListenerSetSessionIdle]
  split
  · exact ⟨h, [], .same rfl rfl⟩
  · next hne =>
    split
    · exact ⟨h, [], .same rfl rfl⟩
    · next hfree =>
      have hoff : s.listener.active = false := by
        cases b
        · exact off rfl
        · cases hact : s.listener.active
          · rfl
          · exact absurd (h.both hact) hne
      have hset : ((s.onTrial b).listenerSetSessionIdleInternal env b).listener.Timed :=
        timed_setSessionIdle h hoff b
      simp only [listenerCheckActivation]
      split
      · exact ⟨hset, [], .same rfl rfl⟩
      · next henabled =>
        split
        · exact ⟨hset, [], .same rfl rfl⟩
        · next hidle =>
          have hb : b = true := by
            have hnot : ¬ (!b) = true := hidle
            simpa using hnot
          subst hb
          split
          · next hpresent => exact absurd hpresent hfree
          · have hnot : ¬ (!s.listener.activationEnabled) = true := henabled
            have hon : s.listener.activationEnabled = true := by simpa using hnot
            have hnone : s.listener.inhibitors.isEmpty = true := by
              simpa [listenerRefEntryIsPresent, GSListener.table] using hfree
            exact trial_timed h hoff ⟨hon, rfl, hnone⟩

/- The tables and the other flags are beside the point. -/
theorem timed_same {l l' : GSListener} (h : l.Timed) (active : l'.active = l.active)
    (sessionIdle : l'.sessionIdle = l.sessionIdle) (activeStart : l'.activeStart = l.activeStart)
    (sessionIdleStart : l'.sessionIdleStart = l.sessionIdleStart) : l'.Timed := by
  refine ⟨?_, ?_, ?_⟩
  · rw [active, activeStart]
    exact h.active
  · rw [sessionIdle, sessionIdleStart]
    exact h.idle
  · rw [active, sessionIdle]
    exact h.both

theorem timed_setTable {l : GSListener} (h : l.Timed) (type : RefType) (t : Table Nat RefEntry) :
    (l.setTable type t).Timed ∧ (l.setTable type t).active = l.active := by
  cases type
  · exact ⟨timed_same h rfl rfl rfl rfl, rfl⟩
  · exact ⟨timed_same h rfl rfl rfl rfl, rfl⟩

theorem part_timed (hp : Part p env s₀ e s t) (h : s.listener.Timed) :
    t.listener.Timed ∧ (¬ s₀.Explicit e → ∃ new, Heeds s t new) := by
  cases hp with
  | activate why =>
    obtain ⟨new, ht, -⟩ := turned_setActive env s true
    refine ⟨ht.timed h, fun hex => ?_⟩
    rcases why with hwhy | hwhy
    · exact absurd hwhy hex
    · exact heeds_activate hwhy
  | deactivate ends first =>
    obtain ⟨new, ht, -⟩ := turned_setActive env s false
    exact ⟨ht.timed h, fun _ => heeds_deactivate s⟩
  | idle b off =>
    obtain ⟨htimed, hheeds⟩ := idle_timed b h off
    exact ⟨htimed, fun _ => hheeds⟩
  | stored type entry new own fresh =>
    obtain ⟨_, _, _, heq⟩ := stored_eq env type entry s
    rw [heq]
    exact ⟨timed_same h rfl rfl rfl rfl, fun _ => ⟨[], .same rfl rfl⟩⟩
  | dropped type cookie entry found =>
    obtain ⟨hset, hact⟩ := timed_setTable h type ((s.listener.table type).erase cookie)
    rw [dropped_eq]
    exact ⟨hset, fun _ => ⟨[], .same rfl hact⟩⟩
  | purged type name =>
    obtain ⟨hset, hact⟩ := timed_setTable h type
      ((s.listener.table type).removeIf fun e => e.connection = name)
    rw [purged_eq]
    exact ⟨hset, fun _ => ⟨[], .same rfl hact⟩⟩
  | throttle b first =>
    simp only [gsListenerSetThrottle]
    split
    · exact ⟨timed_same h rfl rfl rfl rfl, fun _ => ⟨[], .same rfl rfl⟩⟩
    · exact ⟨h, fun _ => ⟨[], .same rfl rfl⟩⟩
  | enable b => exact ⟨timed_same h rfl rfl rfl rfl, fun _ => ⟨[], .same rfl rfl⟩⟩
  | delayLock fd heard he => exact ⟨timed_same h rfl rfl rfl rfl, fun _ => ⟨[], .same rfl rfl⟩⟩
  | ckCookie n => exact ⟨timed_same h rfl rfl rfl rfl, fun _ => ⟨[], .same rfl rfl⟩⟩
  | saver hd => exact ⟨h, fun _ => ⟨[], .same rfl rfl⟩⟩
  | watcher w enabled active silent notice => exact ⟨h, fun _ => ⟨[], .same rfl rfl⟩⟩
  | releaseGrab id => exact ⟨h, fun _ => ⟨[], .same rfl rfl⟩⟩
  | quit => exact ⟨h, fun _ => ⟨[], .same rfl rfl⟩⟩
  | prefs k he => exact ⟨h, fun _ => ⟨[], .same rfl rfl⟩⟩
  | reply m plain => exact ⟨h, fun _ => ⟨[], .same rfl rfl⟩⟩

theorem parts_timed (hp : Parts p env s₀ e s t) (h : s.listener.Timed) :
    t.listener.Timed ∧ (¬ s₀.Explicit e → ∃ new, Heeds s t new) := by
  induction hp with
  | refl => exact ⟨h, fun _ => ⟨[], .same rfl rfl⟩⟩
  | tail _ hpart ih =>
    obtain ⟨hmid, hbefore⟩ := ih
    obtain ⟨hend, hafter⟩ := part_timed hpart hmid
    refine ⟨hend, fun hex => ?_⟩
    obtain ⟨new, hn⟩ := hbefore hex
    obtain ⟨new', hn'⟩ := hafter hex
    exact ⟨new ++ new', hn.trans hn'⟩

theorem timed_invariant : screensaver.Invariant fun s => (s.Agreed ∧ s.saver.Housed) ∧ s.listener.Timed := by
  refine housed_invariant.and (fun s hs => ?_) fun s label t hs htimed h => ?_
  · obtain ⟨b, env, rfl⟩ := hs
    have hl : ∃ on, (b.start env).listener = { b.unsettled.listener with activationEnabled := on } := by
      rw [Boot.start, updateFromPrefs_eq]
      dsimp only
      split
      · refine ⟨b.unsettled.prefs.idleActivationEnabled, ?_⟩
        simp only [settle]
        split <;> rfl
      · refine ⟨b.unsettled.prefs.idleActivationEnabled, ?_⟩
        simp only [settle]
        split <;> rfl
    obtain ⟨on, hl⟩ := hl
    rw [hl]
    exact ⟨by simp [Boot.unsettled], by simp [Boot.unsettled], fun hon => absurd hon Bool.false_ne_true⟩
  · exact (parts_timed (parts_step (p := False) hs.1 hs.2 False.elim h) htimed).1

/-- Between events the start times are right; and an event that is no explicit
request turns the listener active only on the conditions of idleness. -/
theorem activation_obeys (hr : screensaver.Reachable s) : s.listener.Timed ∧
    ∀ env e t, screensaver.next s (env, e) = some t → ¬ s.Explicit e → ∃ new, Heeds s t new := by
  obtain ⟨⟨hs, hh⟩, htimed⟩ := timed_invariant.reachable hr
  refine ⟨htimed, fun env e t h hex => ?_⟩
  have hparts := parts_step (p := False) hs hh False.elim h
  obtain ⟨new, hn⟩ := (parts_timed hparts htimed).2 hex
  exact ⟨new, hn.activations, hn.willing, hn.recorded⟩

/- The session becomes idle. -/
def idles : List (Env × Event) :=
  [(granted, .presenceStatus 3), ({ granted with elapsed := 10000 }, .onIdleTimeout 1)]

theorem activation_obeys_idle : ∃ s, screensaver.run (desk.start granted) idles = some s ∧
    s.listener.active = true ∧ s.listener.Timed := by
  let s := (screensaver.run (desk.start granted) idles).get (by decide)
  have hrun : screensaver.run (desk.start granted) idles = some s := by simp [s]
  exact ⟨s, hrun, by decide, (activation_obeys (desk_reachable _ hrun)).1⟩

end Screensaver
end MateScreensaver

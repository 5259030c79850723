import MateScreensaver.Activation
import MateScreensaver.Step

/-!
The listener, the monitor, the watcher and the manager keep the same fact, each
in its own field. Between two events they agree.
-/

namespace MateScreensaver
open Runs

def BusMessage.activeChange : BusMessage → Option Bool
  | .activeChanged b => some b
  | _ => none

/- TRUE, FALSE, TRUE, ... -/
def Alternating (l : List Bool) : Prop := ∀ i b, l[i]? = some b → b = (i % 2 == 0)

theorem Alternating.append {l : List Bool} {b : Bool} (h : Alternating l)
    (hb : l.getLast?.getD false = !b) : Alternating (l ++ [b]) := by
  have hlen : b = (l.length % 2 == 0) := by
    rcases List.eq_nil_or_concat l with rfl | ⟨front, c, rfl⟩
    · simpa using hb.symm
    · have hc := h front.length c (by simp)
      have hcb : c = !b := by simpa using hb
      rw [List.concat_eq_append, List.length_append, List.length_singleton]
      have hpar : front.length % 2 = 0 ∨ front.length % 2 = 1 := Nat.mod_two_eq_zero_or_one _
      rcases hpar with hp | hp
      · have hp' : (front.length + 1) % 2 = 1 := by omega
        simp_all
      · have hp' : (front.length + 1) % 2 = 0 := by omega
        simp_all
  intro i c hi
  rw [List.getElem?_append] at hi
  split at hi
  · exact h i c hi
  · next hn =>
    have hle := Nat.le_of_not_lt hn
    have hi0 : i - l.length = 0 := by
      by_contra hne
      rw [List.getElem?_eq_none (by simp; omega)] at hi
      cases hi
    rw [hi0] at hi
    have hil : i = l.length := by omega
    rw [hil, ← hlen]
    simpa using hi.symm

namespace Screensaver
open LockScreen

def activeChanges (s : Screensaver) : List Bool := s.sent.filterMap BusMessage.activeChange

/- What holds whenever gs_listener_set_active is called. -/
structure Coupled (s : Screensaver) : Prop where
  sound : s.saver.view.Sound
  listener : s.listener.active = s.saver.manager.active
  enabled : s.watcher.enabled = true
  watcher : s.watcher.active = !s.saver.manager.active

/-- What holds between two events. -/
structure Agreed (s : Screensaver) : Prop extends Coupled s where
  listed : s.saver.view.Listed
  lock : s.saver.manager.lockActive = true → s.saver.manager.active = true
  throttled : s.saver.manager.throttled = s.listener.throttled
  changes : Alternating s.activeChanges
  last : s.activeChanges.getLast?.getD false = s.listener.active

/-- The outcomes of gs_listener_set_active: nothing to do, a refused grab, and
the two changes. -/
inductive SetActive (env : Env) (s : Screensaver) : Bool → Bool × Screensaver → Prop
  | same {b : Bool} (h : s.listener.active = b) : SetActive env s b (false, s)
  | refused (saver : Saver) (off : s.listener.active = false) (grab : env.grabRoot = false)
      (view : saver.view = s.saver.view) :
      SetActive env s true (false, { s with
        saver := saver
        listener := { s.listener with sessionIdle := false, sessionIdleStart := 0 } })
  | started (saver : Saver) (off : s.listener.active = false) (grab : env.grabRoot = true)
      (view : Started s.saver.view saver.view) :
      SetActive env s true (true, { s with
        saver := saver
        watcher := { s.watcher with active := false, idle := false, idleNotice := false }
        listener := { s.listener with
          active := true, sessionIdle := true, activeStart := env.time
          sessionIdleStart := if s.listener.sessionIdle then s.listener.sessionIdleStart else env.time }
        sent := s.sent ++ [.activeChanged true]
        activations := s.activations ++ [s.listener] })
  | stopped (saver : Saver) (on : s.listener.active = true)
      (view : saver.view = s.saver.view.deactivate) :
      SetActive env s false (true, { s with
        saver := saver
        watcher := { s.watcher with active := true, idle := false, idleNotice := false }
        listener := { s.listener with
          active := false, sessionIdle := false, activeStart := 0
          sessionIdleStart := if s.listener.sessionIdle = false then s.listener.sessionIdleStart else 0 }
        sent := s.sent ++ [.activeChanged false] })

variable {s t u : Screensaver} {env : Env}

/- listener_set_active_internal, its fields at once. -/
theorem listenerSetActiveInternal_eq (env : Env) (b : Bool) (s : Screensaver) :
    s.listenerSetActiveInternal env b = { s with
      listener := { s.listener with
        active := b, sessionIdle := b, activeStart := if b then env.time else 0
        sessionIdleStart := if s.listener.sessionIdle = b then s.listener.sessionIdleStart
          else if b then env.time else 0 }
      sent := s.sent ++ [.activeChanged b] } := by
  simp only [listenerSetActiveInternal, modifyListener, send, listenerSetSessionIdleInternal]
  by_cases h : s.listener.sessionIdle = b
  · simp [h]
  · simp [h]

theorem setWatcherActive (hs : s.Coupled) (b : Bool) (hb : s.listener.active = b) :
    (gsWatcherSetActive b s.watcher).2 = { s.watcher with active := b, idle := false, idleNotice := false } := by
  have hne : ¬ s.watcher.active = b := by
    rw [hs.watcher, ← hs.listener, hb]
    cases b <;> simp
  have hne' : b ≠ s.watcher.active := fun h => hne h.symm
  simp [gsWatcherSetActive, hne, hne', hs.enabled, GSWatcher.setActiveInternal, GSWatcher.resetState]

theorem gsListenerSetActive_spec (env : Env) (hs : s.Coupled) (b : Bool) :
    SetActive env s b (s.gsListenerSetActive env b) := by
  by_cases hb : s.listener.active = b
  · simp only [gsListenerSetActive, hb, if_true]
    exact .same hb
  · simp only [gsListenerSetActive, hb, if_false]
    cases b
    · -- a deactivation cannot fail
      have hon : s.listener.active = true := by simpa using hb
      have hact : s.saver.manager.active = true := hs.listener.symm.trans hon
      have hview := Saver.view_gsManagerDeactivate env.toSaverEnv s.saver
      rw [if_pos hact] at hview
      have hres : (s.saver.gsManagerDeactivate env.toSaverEnv).1 = true := by
        simp [Saver.gsManagerDeactivate, hact]
      have hw := setWatcherActive hs true hon
      have h : SetActive env s false _ := .stopped _ hon hview
      simp only [hs.enabled] at h
      simp only [listenerActiveChangedCb, Saver.gsManagerSetActive, hres, hs.enabled,
        listenerSetActiveInternal_eq, hw, Bool.not_false, Bool.not_true, Bool.and_true, if_true,
        Bool.false_eq_true, if_false]
      exact h
    · have hoff : s.listener.active = false := by simpa using hb
      have hact : s.saver.manager.active = false := hs.listener.symm.trans hoff
      obtain ⟨hres, hno, hyes⟩ := Saver.gsManagerActivate_spec env.toSaverEnv hs.sound hact
      cases hg : env.grabRoot
      · have h : SetActive env s true _ := .refused _ hoff hg (hno hg)
        simp only [listenerActiveChangedCb, Saver.gsManagerSetActive, hres, hg,
          listenerSetSessionIdleInternal, modifyListener, Bool.not_false, Bool.false_and, if_true,
          Bool.false_eq_true, if_false]
        exact h
      · have hw := setWatcherActive hs false hoff
        have h : SetActive env s true _ := .started _ hoff hg (hyes hg)
        simp only [hs.enabled] at h
        simp only [listenerActiveChangedCb, Saver.gsManagerSetActive, hres, hg, hs.enabled,
          listenerSetActiveInternal_eq, hw, Bool.not_true, Bool.and_true, if_true,
          Bool.false_eq_true, if_false]
        exact h

/-! ### What a step of the code does to the agreement -/

def Locked (s : Screensaver) : Prop := s.saver.manager.active = true ∧ s.saver.manager.lockActive = true
def Guarded (s : Screensaver) : Prop := s.saver.view.Guarded
def Reports (s : Screensaver) : Prop := s.saver.view.Reports
def Quiet (s : Screensaver) : Prop := s.saver.view.Quiet

/-- The agreement survives. Under `r` dialogs still report, under `g` a locked
screen stays guarded, and under `p` it stays locked. -/
structure Proper (r g p : Prop) (s t : Screensaver) : Prop where
  agreed : t.Agreed
  reports : r → s.Reports → t.Reports
  guarded : g → s.Guarded → t.Guarded
  stays : p → s.Locked → t.Locked

def Preserves (r g p : Prop) (s t : Screensaver) : Prop := s.Agreed → Proper r g p s t

variable {r g p : Prop}

theorem Preserves.refl : Preserves r g p s s := fun h => ⟨h, fun _ => id, fun _ => id, fun _ => id⟩

theorem Preserves.trans (h : Preserves r g p s t) (h' : Preserves r g p t u) : Preserves r g p s u := by
  intro hs
  have h1 := h hs
  have h2 := h' h1.agreed
  exact ⟨h2.agreed, fun hr h0 => h2.reports hr (h1.reports hr h0),
    fun hg h0 => h2.guarded hg (h1.guarded hg h0), fun hp h0 => h2.stays hp (h1.stays hp h0)⟩

theorem Preserves.mono {r' g' p' : Prop} (h : Preserves r g p s t) (hr : r' → r) (hg : g' → g)
    (hp : p' → p) : Preserves r' g' p' s t := by
  intro hs
  have h1 := h hs
  exact ⟨h1.agreed, fun h0 => h1.reports (hr h0), fun h0 => h1.guarded (hg h0),
    fun h0 => h1.stays (hp h0)⟩

/- The manager aside, nothing that the agreement is about has changed. -/
structure Beside (s t : Screensaver) : Prop where
  active : t.listener.active = s.listener.active
  throttled : t.listener.throttled = s.listener.throttled
  enabled : t.watcher.enabled = s.watcher.enabled
  watcher : t.watcher.active = s.watcher.active
  changes : t.activeChanges = s.activeChanges

theorem Beside.modifySaver (f : Saver → Saver) : Beside s (s.modifySaver f) :=
  ⟨rfl, rfl, rfl, rfl, rfl⟩

theorem preserves_tightens (h : Saver.Tightens g s.saver t.saver) (hb : Beside s t) :
    Preserves r g p s t := by
  intro hs
  have hk := h hs.sound
  have hact : t.saver.manager.active = s.saver.manager.active := hk.active
  have hthr : t.saver.manager.throttled = s.saver.manager.throttled := hk.throttled
  refine ⟨⟨⟨hk.sound, ?_, ?_, ?_⟩, hk.listed hs.listed, fun hl => ?_, ?_, ?_, ?_⟩,
    fun _ => hk.reports, hk.guarded, fun _ hl => ⟨hact.trans hl.1, hk.locked hl.2⟩⟩
  · rw [hb.active, hact, hs.listener]
  · rw [hb.enabled, hs.enabled]
  · rw [hb.watcher, hact, hs.watcher]
  · rw [hact]
    rcases hk.unlocked hl with h0 | h0
    · exact hs.lock h0
    · exact h0
  · rw [hthr, hb.throttled, hs.throttled]
  · rw [hb.changes]
    exact hs.changes
  · rw [hb.changes, hb.active, hs.last]

theorem preserves_keeps (h : Saver.Keeps r s.saver t.saver) (hb : Beside s t) :
    Preserves r g p s t := by
  intro hs
  have hk := h hs.sound
  have hact : t.saver.manager.active = s.saver.manager.active := hk.active
  have hlock : t.saver.manager.lockActive = s.saver.manager.lockActive := hk.lockActive
  have hthr : t.saver.manager.throttled = s.saver.manager.throttled := hk.throttled
  refine ⟨⟨⟨hk.sound, ?_, ?_, ?_⟩, hk.listed hs.listed, ?_, ?_, ?_, ?_⟩,
    hk.reports, fun _ => hk.guarded, fun _ hl => ⟨hact.trans hl.1, hlock.trans hl.2⟩⟩
  · rw [hb.active, hact, hs.listener]
  · rw [hb.enabled, hs.enabled]
  · rw [hb.watcher, hact, hs.watcher]
  · rw [hact, hlock]
    exact hs.lock
  · rw [hthr, hb.throttled, hs.throttled]
  · rw [hb.changes]
    exact hs.changes
  · rw [hb.changes, hb.active, hs.last]

theorem preserves_saver {f : Saver → Saver} (h : Saver.Keeps r s.saver (f s.saver)) :
    Preserves r g p s (s.modifySaver f) :=
  preserves_keeps h (.modifySaver f)

theorem preserves_beside (h : t.saver = s.saver) (hb : Beside s t) : Preserves r g p s t :=
  preserves_keeps (h ▸ Saver.Keeps.refl) hb

theorem Beside.listener {f : GSListener → GSListener} (ha : (f s.listener).active = s.listener.active)
    (ht : (f s.listener).throttled = s.listener.throttled) : Beside s (s.modifyListener f) :=
  ⟨ha, ht, rfl, rfl, rfl⟩

theorem Beside.send {m : BusMessage} (h : m.activeChange = none) : Beside s (s.send m) :=
  ⟨rfl, rfl, rfl, rfl, by simp [activeChanges, Screensaver.send, h]⟩

theorem preserves_send {m : BusMessage} (h : m.activeChange = none) : Preserves r g p s (s.send m) :=
  preserves_beside rfl (.send h)

theorem preserves_listener {f : GSListener → GSListener}
    (ha : (f s.listener).active = s.listener.active)
    (ht : (f s.listener).throttled = s.listener.throttled) : Preserves r g p s (s.modifyListener f) :=
  preserves_beside rfl (.listener ha ht)

/- A deactivation ends a lock; all else is kept by both changes. -/
theorem SetActive.preserves {b : Bool} {x : Bool × Screensaver} (h : SetActive env s b x) :
    Preserves r g (b = true) s x.2 := by
  intro hs
  cases h with
  | same h => exact ⟨hs, fun _ => id, fun _ => id, fun _ => id⟩
  | refused saver off grab view =>
    exact preserves_keeps (Saver.keeps_of_view view) ⟨rfl, rfl, rfl, rfl, rfl⟩ hs
  | started saver off grab view =>
    have hoff : s.saver.manager.active = false := hs.listener.symm.trans off
    have hopen : s.saver.manager.lockActive = false := by
      by_contra hl
      have hact := hs.lock (by simpa using hl)
      rw [hoff] at hact
      cases hact
    have hact : saver.manager.active = true := view.active
    have hthr : saver.manager.throttled = s.saver.manager.throttled := view.throttled
    have hlast : s.activeChanges.getLast?.getD false = !true := hs.last.trans off
    refine ⟨⟨⟨view.sound, hact.symm, hs.enabled, ?_⟩, view.listed hs.listed, fun _ => hact, ?_, ?_, ?_⟩,
      fun _ => view.reports, fun _ _ => view.guarded fun hl => ?_, fun _ hl => ?_⟩
    · show false = !saver.manager.active
      rw [hact]
      rfl
    · exact hthr.trans hs.throttled
    · simp only [activeChanges, List.filterMap_append]
      exact hs.changes.append hlast
    · simp [activeChanges, BusMessage.activeChange]
    · have hl' : s.saver.manager.lockActive = true := hl
      rw [hopen] at hl'
      cases hl'
    · have hl' := hl.1
      rw [hoff] at hl'
      cases hl'
  | stopped saver on view =>
    have hact : saver.manager.active = false := congrArg LockScreen.active view
    have hlock : saver.manager.lockActive = false := congrArg LockScreen.lockActive view
    have hthr : saver.manager.throttled = s.saver.manager.throttled := by
      have h := congrArg LockScreen.throttled view
      rw [deactivate_throttled hs.sound] at h
      exact h
    have hlast : s.activeChanges.getLast?.getD false = !false := hs.last.trans on
    refine ⟨⟨⟨?_, hact.symm, hs.enabled, ?_⟩, ?_, fun hl => ?_, hthr.trans hs.throttled, ?_, ?_⟩,
      fun _ _ => ?_, fun _ _ ha => ?_, fun hb => absurd hb (by simp)⟩
    · rw [view]
      exact hs.sound.deactivate
    · show true = !saver.manager.active
      rw [hact]
      rfl
    · rw [view]
      exact deactivate_listed _
    · have hl' : saver.manager.lockActive = true := hl
      rw [hlock] at hl'
      cases hl'
    · simp only [activeChanges, List.filterMap_append]
      exact hs.changes.append hlast
    · simp [activeChanges, BusMessage.activeChange]
    · show saver.view.Reports
      rw [view]
      exact deactivate_reports hs.sound
    · have ha' : saver.manager.active = true := ha
      rw [hact] at ha'
      cases ha'

theorem preserves_setActive (b : Bool) :
    Preserves r g (b = true) s (s.gsListenerSetActive env b).2 :=
  fun hs => (gsListenerSetActive_spec env hs.toCoupled b).preserves hs

theorem preserves_activate : Preserves r g p s (s.gsListenerSetActive env true).2 :=
  (preserves_setActive (r := r) (g := g) true).mono id id fun _ => rfl

end Screensaver
end MateScreensaver

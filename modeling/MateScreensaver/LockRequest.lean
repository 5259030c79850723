import MateScreensaver.Attention

/-!
The lock is all or nothing: a lock request ends in an active, locked manager or
leaves everything as it was, and nothing but a request and the lock timer locks.
-/

namespace MateScreensaver
open Runs

namespace Saver

variable {p : Prop} {env : SaverEnv} {s t : Saver}

/-- What the manager knows of its lock, apart from the timer. -/
structure SameLock (s t : Saver) : Prop where
  lockActive : t.manager.lockActive = s.manager.lockActive
  lockEnabled : t.manager.lockEnabled = s.manager.lockEnabled
  lockTimeout : t.manager.lockTimeout = s.manager.lockTimeout

theorem SameLock.refl : SameLock s s := ⟨rfl, rfl, rfl⟩

theorem SameLock.trans {u : Saver} (h : SameLock s t) (h' : SameLock t u) : SameLock s u :=
  ⟨h'.lockActive.trans h.lockActive, h'.lockEnabled.trans h.lockEnabled, h'.lockTimeout.trans h.lockTimeout⟩

theorem Steady.sameLock (h : Steady s t) : SameLock s t := ⟨h.lockActive, h.lockEnabled, h.lockTimeout⟩

theorem Act.sameLock (h : Act p env s t) : SameLock s t := by
  cases h with
  | calm h => exact h.steady.sameLock
  | plug d => exact ⟨rfl, rfl, rfl⟩
  | create m down => exact ⟨rfl, rfl, rfl⟩
  | turnOn off => exact ⟨rfl, rfl, rfl⟩
  | dropJob w => exact ⟨rfl, rfl, rfl⟩
  | gone w down silent unused => exact ⟨rfl, rfl, rfl⟩

/- Windows come and go under the lock they find. -/
theorem Acts.sameLock (h : Acts p env s t) : SameLock s t := by
  induction h with
  | refl => exact .refl
  | tail _ h ih => exact ih.trans h.sameLock

theorem gsManagerSetLockActive_lock (b : Bool) (s : Saver) :
    (s.gsManagerSetLockActive b).manager.lockActive = b := by
  have h := congrArg LockScreen.lockActive (view_gsManagerSetLockActive s b)
  split at h
  · next hb => exact h.trans hb
  · exact h

/- The timer has run out, or never should have been waited for. -/
theorem activateLockTimeout_lock (h : s.activateLockTimeout.manager.lockActive = true) :
    s.manager.lockActive = true ∨ s.manager.lockEnabled = true := by
  simp only [activateLockTimeout] at h
  split at h
  · next he => exact .inr he
  · exact .inl h

theorem gsManagerSetLockTimeout_lock {n : Int} (hopen : s.manager.lockActive = false)
    (h : (s.gsManagerSetLockTimeout env n).manager.lockActive = true) :
    s.lockDue env s.manager.lockEnabled n := by
  have hout : s.manager.lockActive ≠ true := by
    rw [hopen]
    exact Bool.false_ne_true
  simp only [gsManagerSetLockTimeout] at h
  split at h
  · next hne =>
    split at h
    · next hc =>
      simp only [Bool.and_eq_true, Bool.not_eq_true', decide_eq_true_eq] at hc
      obtain ⟨⟨hact, -⟩, hpos⟩ := hc
      obtain ⟨-, hen, hlock⟩ := removeLockTimer_manager (s.modifyManager fun m => { m with lockTimeout := n })
      split at h
      · next helapsed =>
        rcases activateLockTimeout_lock h with hl | he
        · exact absurd (hlock.symm.trans hl) hout
        · exact ⟨hne, hact, hopen, hpos, helapsed, hen.symm.trans he⟩
      · exact absurd (hlock.symm.trans h) hout
    · exact absurd h hout
  · exact absurd h hout

end Saver

namespace Screensaver
open Saver (SameLock)

variable {p : Prop} {s t s₀ : Screensaver} {env : Env} {e : Event} {v u : Saver}

/-! ### A request -/

structure Secured (s : Screensaver) : Prop where
  active : s.saver.manager.active = true
  lockActive : s.saver.manager.lockActive = true
  windows : ∀ w ∈ s.saver.manager.windows, (s.saver.window w).lockEnabled = true

structure Untouched (s t : Screensaver) : Prop where
  active : t.saver.manager.active = s.saver.manager.active
  lockActive : t.saver.manager.lockActive = s.saver.manager.lockActive
  listed : t.saver.manager.windows = s.saver.manager.windows
  windows : ∀ w, (t.saver.window w).lockEnabled = (s.saver.window w).lockEnabled
  listener : t.listener.active = s.listener.active
  watcher : t.watcher.active = s.watcher.active

theorem Untouched.of_view (hv : t.saver.view = s.saver.view) (hl : t.listener.active = s.listener.active)
    (hw : t.watcher.active = s.watcher.active) : Untouched s t := by
  refine ⟨congrArg LockScreen.active hv, congrArg LockScreen.lockActive hv, congrArg LockScreen.windows hv,
    fun w => ?_, hl, hw⟩
  have hwin : (t.saver.windows w).map GSWindow.view = (s.saver.windows w).map GSWindow.view :=
    congrFun (congrArg LockScreen.window hv) w
  unfold Saver.window
  cases ht : t.saver.windows w with
  | none =>
    rw [ht] at hwin
    rw [Option.map_eq_none_iff.1 hwin.symm]
  | some win =>
    rw [ht] at hwin
    obtain ⟨win', hs, heq⟩ := Option.map_eq_some_iff.1 hwin.symm
    rw [hs]
    exact (congrArg DialogWindow.lockEnabled heq).symm

theorem Agreed.secured (hs : s.Agreed) (hl : s.saver.manager.lockActive = true) : s.Secured := by
  refine ⟨hs.lock hl, hl, fun w hw => ?_⟩
  obtain ⟨win, hwin, hlock⟩ := hs.windows w hw
  rw [Saver.window_of_some hwin, hlock, hl]

/- The lock came first; when the activation fails it is taken back from every
window, and the listener has not been active in between. -/
theorem refused_untouched {x : Bool × Screensaver} (hs : s.Agreed) (hoff : s.saver.manager.active = false)
    (hset : SetActive env (s.modifySaver (.gsManagerSetLockActive true)) true x) (hres : x.1 = false) :
    Untouched s (x.2.modifySaver (.gsManagerSetLockActive s.saver.manager.lockActive)) := by
  have hopen : s.saver.manager.lockActive = false := by
    by_contra hl
    have hact := hs.lock (by simpa using hl)
    rw [hoff] at hact
    cases hact
  have hview := (lockFirst_coupled hs.toCoupled true).2
  rw [hopen, if_neg Bool.false_ne_true] at hview
  cases hset with
  | same h =>
    have hon : s.listener.active = true := h
    rw [hs.listener, hoff] at hon
    cases hon
  | refused saver off grab view =>
    have hback := Saver.view_gsManagerSetLockActive saver false
    have hlock : saver.manager.lockActive = true := congrArg LockScreen.lockActive (view.trans hview)
    rw [hlock, if_neg (by decide), view, hview, LockScreen.setLock_undo hs.sound hopen] at hback
    rw [hopen]
    exact .of_view hback rfl rfl
  | started saver off grab view => cases hres

theorem lockScreen_or_not (env : Env) (hs : s.Agreed) :
    (s.gsMonitorLockScreen env).Secured ∨ Untouched s (s.gsMonitorLockScreen env) := by
  have hafter : (s.gsMonitorLockScreen env).Agreed :=
    (preserves_lockScreen (r := False) (g := False) (p := False) env False.elim hs).agreed
  have hc := (lockFirst_coupled hs.toCoupled true).1
  have hlocked : (s.modifySaver (.gsManagerSetLockActive true)).saver.manager.lockActive = true :=
    Saver.gsManagerSetLockActive_lock true s.saver
  simp only [gsMonitorLockScreen] at hafter ⊢
  split at hafter
  · next hinactive =>
    have hoff : s.saver.manager.active = false := by
      have hsame := hs.listener.symm.trans hc.listener
      rw [hsame]
      simpa using hinactive
    have hset := gsListenerSetActive_spec env hc true
    rw [if_pos hinactive]
    generalize (s.modifySaver (.gsManagerSetLockActive true)).gsListenerSetActive env true = x at hset hafter ⊢
    split at hafter
    · next hres =>
      rw [if_pos hres]
      exact .inr (refused_untouched hs hoff hset (by simpa using hres))
    · next hres =>
      rw [if_neg hres]
      cases hset with
      | same h => exact absurd rfl hres
      | refused saver off grab view => exact absurd rfl hres
      | started saver off grab view => exact .inl (hafter.secured (view.lockActive.trans hlocked))
  · next hactive =>
    rw [if_neg hactive]
    exact .inl (hafter.secured hlocked)

theorem lockCb_or_not (env : Env) (hs : s.Agreed) :
    (s.listenerLockCb env).Secured ∨ Untouched s (s.listenerLockCb env) := by
  simp only [listenerLockCb]
  split
  · exact lockScreen_or_not env hs
  · exact .inr ⟨rfl, rfl, rfl, fun _ => rfl, rfl, rfl⟩

/-! ### What turns the lock on -/

/- The manager as the lock timeout of the changed settings finds it. -/
def withLockSetting (k : KeyChange) (s : Screensaver) : Saver :=
  s.saver.gsManagerSetLockEnabled
    ((s.prefs.keyChanged k).lockEnabled && !(s.prefs.keyChanged k).lockDisabled)

/-- The two ways into the lock: listener_lock_cb while locking is allowed, and the
timer logic while the manager's lock is enabled. The latter runs when the timer
fires and when a new timeout turns out to be over. -/
inductive LockedBy (s : Screensaver) (label : Env × Event) (t : Screensaver) : Prop
  | request (asked : s.lockRequest label.2 = true) (allowed : s.prefs.lockDisabled = false)
      (done : t = (s.tick label.1).listenerLockCb label.1)
  | timer (id : SourceId) (fires : label.2 = .activateLockTimeout id)
      (pending : id ∈ s.saver.loop.activateLockTimeout.map Timer.id)
      (enabled : s.saver.manager.lockEnabled = true)
  | settings (k : KeyChange) (changes : label.2 = .keyChanged k)
      (enabled : (s.withLockSetting k).manager.lockEnabled = true)
      (due : (s.withLockSetting k).lockDue label.1.toSaverEnv (s.withLockSetting k).manager.lockEnabled
        (s.prefs.keyChanged k).lockTimeout)

/- A step that is a lock request is nothing else. -/
theorem lockRequest_dispatch (hr : s₀.lockRequest e = true)
    (h : (s₀.tick env).dispatch env e = some t) : t = (s₀.tick env).listenerLockCb env := by
  cases e with
  | sessionCall sender call =>
    cases call with
    | lock =>
      cases h
      rfl
    | _ => cases hr
  | systemSignal sender signal =>
    cases signal with
    | logindLock path =>
      obtain ⟨hh, hours⟩ := Bool.and_eq_true_iff.1 hr
      have hh' : ((s₀.tick env).config.withSystemd && (s₀.tick env).listener.haveSystemd) = true := hh
      have hours' : (s₀.tick env).messagePathIsOurSession path = true := hours
      simp only [dispatch, listenerDbusHandleSystemMessage, hh', handleLogindSignal, hours', if_true] at h
      cases h
      rfl
    | ckLock path =>
      obtain ⟨hh, hours⟩ := Bool.and_eq_true_iff.1 hr
      obtain ⟨hno, hck⟩ := Bool.and_eq_true_iff.1 hh
      have hno' : ((s₀.tick env).config.withSystemd && (s₀.tick env).listener.haveSystemd) = false :=
        Bool.not_eq_true' _ ▸ hno
      have hck' : (s₀.tick env).config.withConsoleKit = true := hck
      have hours' : (s₀.tick env).messagePathIsOurSession path = true := hours
      simp only [dispatch, listenerDbusHandleSystemMessage, hno', hck', handleCkSignal, hours', if_true,
        Bool.false_eq_true, if_false] at h
      cases h
      rfl
    | _ => cases hr
  | _ => cases hr

/- What in one event can leave an unlocked saver locked. -/
def Opening (env : Env) (s : Screensaver) (e : Event) : Prop :=
  (s.lockRequest e = true ∧ s.prefs.lockDisabled = false) ∨
  (∃ id, e = .activateLockTimeout id ∧ id ∈ s.saver.loop.activateLockTimeout.map Timer.id ∧
    s.saver.manager.lockEnabled = true) ∨
  ∃ k, e = .keyChanged k ∧ (s.withLockSetting k).lockDue env.toSaverEnv
    (s.withLockSetting k).manager.lockEnabled (s.prefs.keyChanged k).lockTimeout

theorem Does.opening (h : Does p env s₀ e v u) (hs : s₀.saver.view.Sound) (hh : v.Housed)
    (hopen : s₀.saver.manager.lockActive = false)
    (hv : v.manager.lockActive = true → s₀.Opening env e) (hu : u.manager.lockActive = true) :
    s₀.Opening env e := by
  cases h with
  | calm h => exact hv (h.steady.lockActive.symm.trans hu)
  | tune h => exact hv ((h hh).steady.lockActive.symm.trans hu)
  | activate off granted =>
    have hacts := (Saver.gsManagerActivate_acts (p := p) hh off granted).1
    exact hv (hacts.sameLock.lockActive.symm.trans hu)
  | deactivate ends first on =>
    rw [(Saver.gsManagerDeactivate_ended env.toSaverEnv hh on).lockActive] at hu
    cases hu
  | added m he first new =>
    subst first
    have hacts := (Saver.monitorAdded_spec (p := p) (s := (s₀.tick env).saver) env m hs hh).1
    exact hv (hacts.sameLock.lockActive.symm.trans hu)
  | removed m he first =>
    have hacts := (Saver.monitorRemoved_spec (p := False) env m hh False.elim).1
    exact hv (hacts.sameLock.lockActive.symm.trans hu)
  | lock request allowed => exact .inl ⟨request, allowed⟩
  | unlock off =>
    rw [Saver.gsManagerSetLockActive_lock] at hu
    cases hu
  | lockTimer id he first due =>
    subst first
    rcases Saver.activateLockTimeout_lock hu with hl | henabled
    · exact hv hl
    · exact .inr (.inl ⟨id, he, due, henabled⟩)
  | lockSettings k he first =>
    subst first
    have hdue := Saver.gsManagerSetLockTimeout_lock (s := (s₀.tick env).withLockSetting k) hopen hu
    exact .inr (.inr ⟨k, he, hdue⟩)
  | throttle b first =>
    obtain ⟨jobs, hjobs⟩ := throttled_eq env.toSaverEnv v b
    rw [hjobs] at hu
    exact hv hu

theorem AllDone.opening (h : AllDone p env s₀ e v u) (hs : s₀.saver.view.Sound) (hh : v.Housed)
    (hopen : s₀.saver.manager.lockActive = false)
    (hv : v.manager.lockActive = true → s₀.Opening env e) (hu : u.manager.lockActive = true) :
    s₀.Opening env e := by
  induction h with
  | refl => exact hv hu
  | tail hbefore h ih => exact h.opening hs (AllDone.housed hbefore hs hh) hopen ih hu

theorem lockedBy_step (hs : s.Agreed ∧ s.saver.Housed) (h : s.step (env, e) = some t)
    (hopen : s.saver.manager.lockActive = false) (hlock : t.saver.manager.lockActive = true) :
    LockedBy s (env, e) t := by
  have hparts := parts_step (p := False) hs.1 hs.2 False.elim h
  have hfirst : (s.tick env).saver.manager.lockActive = true → s.Opening env e := by
    intro hl
    have hl' : s.saver.manager.lockActive = true := hl
    rw [hopen] at hl'
    cases hl'
  have hhouse := tick_housed hs.2 env
  rcases hparts.done.opening hs.1.sound hhouse hopen hfirst hlock with
    ⟨hr, hallowed⟩ | ⟨id, he, hpending, henabled⟩ | ⟨k, he, hdue⟩
  · exact .request hr hallowed (lockRequest_dispatch hr (step_dispatch h))
  · exact .timer id he hpending henabled
  · have henabled := hdue.2.2.2.2.2
    exact .settings k he henabled hdue

/-- In every reachable state a lock request secures the screen or leaves it as it
was, whatever becomes of the grab, and does nothing where locking is disabled; and
no step locks but by a request or by the timer logic. -/
theorem lock_all_or_nothing (hr : screensaver.Reachable s) :
    (∀ env, ((s.tick env).listenerLockCb env).Secured ∨
      Untouched (s.tick env) ((s.tick env).listenerLockCb env)) ∧
    (s.prefs.lockDisabled = true → ∀ env, (s.tick env).listenerLockCb env = s.tick env) ∧
    ∀ label t, screensaver.next s label = some t → s.saver.manager.lockActive = false →
      t.saver.manager.lockActive = true → LockedBy s label t := by
  have hs := housed_invariant.reachable hr
  refine ⟨fun env => lockCb_or_not env (tick_agreed hs.1 env), fun hd env => ?_, fun label t h hopen hlock => ?_⟩
  · have hd' : (s.tick env).prefs.lockDisabled = true := hd
    simp [listenerLockCb, hd']
  · exact lockedBy_step hs h hopen hlock

theorem lock_all_or_nothing_asked : ∃ s, screensaver.run (desk.start granted) asked = some s ∧
    ∀ env, ((s.tick env).listenerLockCb env).Secured ∨
      Untouched (s.tick env) ((s.tick env).listenerLockCb env) := by
  refine ⟨(screensaver.run (desk.start granted) asked).get (by decide), by simp, ?_⟩
  exact (lock_all_or_nothing (desk_reachable asked (by simp))).1

end Screensaver
end MateScreensaver

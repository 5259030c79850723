import MateScreensaver.Refinement
import MateScreensaver.Listener

/-!
Starting, ending and locking: what gs_manager_activate and gs_listener_set_active
do to the manager, the listener and the watcher, in every case.
-/

namespace MateScreensaver

namespace LockScreen
variable {a b : LockScreen} {r : Prop}

theorem Quiet.create (h : a.Sound) (hq : a.Quiet) : a.create.Quiet := by
  refine ⟨fun x hx => ?_, hq.2⟩
  have hlt := h.emit x hx
  simp only [LockScreen.create, put_window]
  rw [if_neg (Nat.ne_of_lt hlt)]
  exact hq.1 x hx

theorem Quiet.setLock (h : a.Sound) (hq : a.Quiet) (b : Bool) : (a.setLock b).Quiet := by
  refine ⟨fun x hx => ?_, hq.2⟩
  rw [setLock_window h, hq.1 x hx]
  rfl

/- Taking the lock back. -/
theorem setLock_undo (h : a.Sound) (hl : a.lockActive = false) : (a.setLock true).setLock false = a := by
  have hwin : ((a.setLock true).setLock false).window = a.window := by
    funext w
    rw [setLock_window (h.setLock true), setLock_window h]
    cases hw : a.window w with
    | none => rfl
    | some d =>
      have hd := (h.lock w d hw).trans hl
      simp [← hd]
  have hrest : (a.setLock true).setLock false
      = { a with lockActive := false, window := ((a.setLock true).setLock false).window } := rfl
  rw [hrest, hwin, ← hl]

theorem Quiet.activate (hq : a.Quiet) : a.activate.Guarded := by
  intro _ _
  refine ⟨fun x hx hs => ?_, fun x hx => ?_⟩
  · have hn : a.activate.window x.window = none := hq.1 x hx
    rw [hn] at hs
    cases hs
  · have hx' : x ∈ a.deactivated := hx
    rw [hq.2] at hx'
    cases hx'

/- The windows made before an activation. -/
structure Prepared (a b : LockScreen) : Prop extends Kept True a b where
  quiet : a.Quiet → b.Quiet

theorem Prepared.refl (h : a.Sound) : Prepared a a := ⟨Keeps.refl h, id⟩

theorem Prepared.create (h : a.Sound) : Prepared a a.create :=
  ⟨Keeps.create a h, fun hq => hq.create h⟩

theorem Prepared.trans {c : LockScreen} (h : Prepared a b) (h' : Prepared b c) (hs : a.Sound) :
    Prepared a c := by
  refine ⟨?_, fun hq => h'.quiet (h.quiet hq)⟩
  have h1 : Keeps True a b := fun _ => h.toKept
  have h2 : Keeps True b c := fun _ => h'.toKept
  exact h1.trans h2 hs

/- The state after a successful activation. -/
structure Started (a b : LockScreen) : Prop where
  active : b.active = true
  lockActive : b.lockActive = a.lockActive
  throttled : b.throttled = a.throttled
  sound : b.Sound
  listed : a.Listed → b.Listed
  reports : a.Reports → b.Reports
  guarded : (a.lockActive = true → a.Quiet) → b.Guarded

theorem Prepared.started {c : LockScreen} (h : Prepared a b) (ha : a.active = false)
    (hk : Keeps True b.activate c) : Started a c := by
  have hs := h.sound.activate (h.active.trans ha)
  have hc := hk hs
  refine ⟨hc.active, hc.lockActive.trans h.lockActive, hc.throttled.trans h.throttled, hc.sound,
    fun hl => hc.listed (h.listed hl), fun hrep => hc.reports trivial (h.reports trivial hrep),
    fun hq hact hlock => ?_⟩
  have hlock' : a.lockActive = true := by
    rw [← h.lockActive]
    exact hc.lockActive ▸ hlock
  exact hc.guarded (h.quiet (hq hlock')).activate hact hlock

/-- A step that may lock an active screen. Under `g` no queued deactivation is
left for it to take over. -/
structure Tighter (g : Prop) (a b : LockScreen) : Prop where
  active : b.active = a.active
  throttled : b.throttled = a.throttled
  locked : a.lockActive = true → b.lockActive = true
  unlocked : b.lockActive = true → a.lockActive = true ∨ a.active = true
  sound : b.Sound
  listed : a.Listed → b.Listed
  guarded : g → a.Guarded → b.Guarded
  reports : a.Reports → b.Reports

def Tightens (g : Prop) (a b : LockScreen) : Prop := a.Sound → Tighter g a b

theorem Keeps.tightens {g : Prop} (h : Keeps True a b) : Tightens g a b := by
  intro hs
  have hk := h hs
  exact ⟨hk.active, hk.throttled, fun hl => hk.lockActive.trans hl,
    fun hl => .inl (hk.lockActive.symm.trans hl), hk.sound, hk.listed, fun _ => hk.guarded,
    hk.reports trivial⟩

theorem Tightens.trans {g : Prop} {c : LockScreen} (h : Tightens g a b) (h' : Tightens g b c) :
    Tightens g a c := by
  intro hs
  have h1 := h hs
  have h2 := h' h1.sound
  refine ⟨h2.active.trans h1.active, h2.throttled.trans h1.throttled,
    fun hl => h2.locked (h1.locked hl), fun hl => ?_, h2.sound, fun hl => h2.listed (h1.listed hl),
    fun hg hq => h2.guarded hg (h1.guarded hg hq), fun hr => h2.reports (h1.reports hr)⟩
  rcases h2.unlocked hl with h0 | h0
  · exact h1.unlocked h0
  · exact .inr (h1.active.symm.trans h0)

theorem Tightens.setLock {g : Prop} (ha : a.active = true) (hg : g → a.lockActive = false → a.Quiet) :
    Tightens g a (if a.lockActive = true then a else a.setLock true) := by
  intro hs
  split
  · exact (Keeps.refl (r := True)).tightens hs
  · next hl =>
    exact ⟨rfl, rfl, fun h => absurd h hl, fun _ => .inr ha, hs.setLock true,
      fun h => h.setLock hs true, fun h _ => (hg h (by simpa using hl)).guarded hs true,
      fun h => h.setLock hs true⟩

end LockScreen

namespace Saver
open LockScreen
variable {s t : Saver}

theorem view_createWindow_inactive (env : SaverEnv) (monitor : MonitorId)
    (ha : s.manager.active = false) :
    (s.gsManagerCreateWindowForMonitor env monitor).view = s.view.create := by
  have hnew := view_newWindow s monitor
  simp only [gsManagerCreateWindowForMonitor]
  split
  · next h =>
    have hfalse : s.view.create.active = false := ha
    rw [← hnew] at hfalse
    have htrue : false = true := hfalse.symm.trans h
    cases htrue
  · exact hnew

theorem prepared_createWindows (env : SaverEnv) (hs : s.view.Sound) (ha : s.manager.active = false) :
    Prepared s.view (s.gsManagerCreateWindows env).view := by
  have hfold : ∀ (l : List MonitorId) (t : Saver), t.view.Sound → t.manager.active = false →
      Prepared t.view (l.foldl (fun s m => s.gsManagerCreateWindowForMonitor env m) t).view := by
    intro l
    induction l with
    | nil => exact fun t ht _ => .refl ht
    | cons m l ih =>
      intro t ht hta
      have hview := view_createWindow_inactive env m hta
      have hcreate := Prepared.create ht
      rw [← hview] at hcreate
      exact hcreate.trans (ih _ hcreate.sound (hcreate.active.trans hta)) ht
  have hdisplay : ∀ (l : List MonitorId) (d : Display), Prepared s.view
      (l.foldl (fun (s : Saver) m => s.gsManagerCreateWindowForMonitor env m)
        { s with display := d }).view :=
    fun l d => hfold l { s with display := d } hs ha
  exact hdisplay _ _

/- The manager's own part of an activation, once the windows are there. -/
def turnedOn (s : Saver) : Saver :=
  { s.modifyManager fun m => { m with jobs := some [], active := true } with
    activation := s.activation + 1 }

/- A refused grab leaves what the view sees as it was. -/
theorem gsManagerActivate_spec (env : SaverEnv) (hs : s.view.Sound) (ha : s.manager.active = false) :
    ((s.gsManagerActivate env).1 = env.grabRoot) ∧
    (env.grabRoot = false → (s.gsManagerActivate env).2.view = s.view) ∧
    (env.grabRoot = true → Started s.view (s.gsManagerActivate env).2.view) := by
  cases hg : env.grabRoot
  · simp [gsManagerActivate, ha, GSGrab.grabWindowOnce, hg, view]
  · refine ⟨by simp [gsManagerActivate, ha, GSGrab.grabWindowOnce, hg], by simp, fun _ => ?_⟩
    have hprep : ∀ t : Saver, t.view = s.view → Prepared s.view
        (if t.manager.windows = [] then t.gsManagerCreateWindows env else t).view := by
      intro t ht
      split
      · have h := prepared_createWindows (s := t) env (ht ▸ hs)
          ((congrArg LockScreen.active ht).trans ha)
        rwa [ht] at h
      · rw [ht]
        exact .refl hs
    have hshow : ∀ (l : List WindowId) (t : Saver), t.view.Sound → t.manager.active = true →
        Kept True t.view (l.foldl (fun s w => s.gtkWidgetShow env w) t).view := by
      intro l
      induction l with
      | nil => exact fun t ht _ => LockScreen.Keeps.refl ht
      | cons w l ih =>
        intro t ht hta
        have hk : Keeps True t (t.gtkWidgetShow env w) := keeps_gtkWidgetShow env w hta
        have h1 := hk ht
        have h2 : Keeps True (t.gtkWidgetShow env w) _ := fun _ => ih _ h1.sound (h1.active.trans hta)
        exact hk.trans h2 ht
    have hrun : ∀ t : Saver, t.view.activate.Sound → Kept True t.view.activate
        (t.turnedOn.forWindows fun w s => s.gtkWidgetShow env w).view :=
      fun t h => hshow t.manager.windows t.turnedOn h rfl
    simp only [gsManagerActivate, ha, GSGrab.grabWindowOnce, hg, Bool.not_true, if_true,
      Bool.false_eq_true, if_false]
    have hgrabbed := hprep { s with grab := s.grab.get .root false false } rfl
    exact hgrabbed.started ha (hrun _)

/-! ### The lock timer -/

def Tightens (g : Prop) (s t : Saver) : Prop := LockScreen.Tightens g s.view t.view

theorem tightens_setLockActive {g : Prop} (ha : s.manager.active = true)
    (hg : g → s.manager.lockActive = false → s.view.Quiet) :
    Tightens g s (s.gsManagerSetLockActive true) := by
  rw [Tightens, view_gsManagerSetLockActive]
  exact .setLock ha hg

/- What activate_lock_timeout does once its timer is off the loop. -/
theorem tightens_activateLockTimeout {g : Prop} (ha : s.manager.active = true)
    (h0 : s.loop.activateLockTimeout = [])
    (hg : g → s.manager.lockEnabled = true → s.manager.lockActive = false → s.view.Quiet) :
    Tightens g s s.activateLockTimeout := by
  have hlock : Tightens g s (if s.manager.lockEnabled then s.gsManagerSetLockActive true else s) := by
    split
    · next he => exact tightens_setLockActive ha fun h => hg h he
    · exact (LockScreen.Keeps.refl (r := True)).tightens
  have htimers : (if s.manager.lockEnabled then s.gsManagerSetLockActive true else s).view.timers
      = [] := by
    split
    · rw [view_gsManagerSetLockActive]
      split <;> simp [view, LockScreen.setLock, h0]
    · simp [view, h0]
  exact hlock.trans (LockScreen.Keeps.clearTimer (r := True) htimers).tightens

theorem view_activateLockTimeout (s : Saver) : s.activateLockTimeout.view =
    { (if s.manager.lockEnabled then
        (if s.manager.lockActive = true then s.view else s.view.setLock true) else s.view) with
      timerId := 0 } := by
  have hid : ∀ t : Saver, (t.modifyManager fun m => { m with lockTimeoutId := 0 }).view
      = { t.view with timerId := 0 } := fun _ => rfl
  rw [activateLockTimeout, hid]
  split
  · rw [view_gsManagerSetLockActive]
  · rfl

/- The dispatch of the timer: it was the only one. -/
theorem tightens_lockTimerRun {g : Prop} {id : SourceId} (hid : id ∈ s.view.timers)
    (hg : g → s.manager.lockEnabled = true → s.manager.lockActive = false → s.view.Quiet) :
    Tightens g s (s.activateLockTimeout.modifyLoop fun l =>
      { l with activateLockTimeout := MainLoop.removeTimer id l.activateLockTimeout }) := by
  intro hs
  obtain ⟨h0, hown, ha⟩ := hs.timer id hid
  have hdrop : s.view.dropTimer
      = { s.view with timers := s.view.timers.filter fun t => t ≠ id, timerId := 0 } := by
    rw [LockScreen.dropTimer, ← hown, if_neg h0]
  have hloop : ∀ t : Saver, (t.modifyLoop fun l =>
      { l with activateLockTimeout := MainLoop.removeTimer id l.activateLockTimeout }).view
        = { t.view with timers := t.view.timers.filter fun t => t ≠ id } := by
    intro t
    simp only [view, modifyLoop, MainLoop.removeTimer, List.filter_map]
    rfl
  have hlock : LockScreen.Tightens g s.view.dropTimer (if s.manager.lockEnabled then
      (if s.manager.lockActive = true then s.view.dropTimer else s.view.dropTimer.setLock true)
      else s.view.dropTimer) := by
    have hquiet : s.view.dropTimer.Quiet ↔ s.view.Quiet := by rw [hdrop]; exact Iff.rfl
    have hactive : s.view.dropTimer.lockActive = s.manager.lockActive := by rw [hdrop]; rfl
    split
    · next he =>
      rw [← hactive]
      refine .setLock (by rw [hdrop]; exact ha) fun h hl => hquiet.2 (hg h he (hactive ▸ hl))
    · exact (LockScreen.Keeps.refl (r := True)).tightens
  have hrun := (LockScreen.Keeps.dropTimer (r := True) s.view).tightens.trans hlock
  have hview : (s.activateLockTimeout.modifyLoop fun l =>
      { l with activateLockTimeout := MainLoop.removeTimer id l.activateLockTimeout }).view
        = if s.manager.lockEnabled then
            (if s.manager.lockActive = true then s.view.dropTimer else s.view.dropTimer.setLock true)
          else s.view.dropTimer := by
    rw [hloop, view_activateLockTimeout, hdrop]
    split
    · split <;> rfl
    · rfl
  rw [hview]
  exact hrun hs

/- gs_manager_set_lock_timeout locks at once when the new time is over already. -/
def lockDue (env : SaverEnv) (lockEnabled : Bool) (lockTimeout : Int) (s : Saver) : Prop :=
  s.manager.lockTimeout ≠ lockTimeout ∧ s.manager.active = true ∧ s.manager.lockActive = false ∧
    0 ≤ lockTimeout ∧ lockTimeout ≤ s.elapsedSinceActivation env ∧ lockEnabled = true

theorem removeLockTimer_manager (s : Saver) : s.removeLockTimer.manager.active = s.manager.active ∧
    s.removeLockTimer.manager.lockEnabled = s.manager.lockEnabled ∧
    s.removeLockTimer.manager.lockActive = s.manager.lockActive := by
  simp only [removeLockTimer]
  split <;> exact ⟨rfl, rfl, rfl⟩

theorem removeLockTimer_quiet (s : Saver) : s.removeLockTimer.view.Quiet ↔ s.view.Quiet := by
  rw [view_removeLockTimer, LockScreen.dropTimer]
  split <;> exact Iff.rfl

/- The old timer is replaced, or its time is over. -/
theorem tightens_restart {g late : Prop} [Decidable late] (ha : s.manager.active = true) (timeout : Nat)
    (hg : g → late → s.manager.lockEnabled = true → s.manager.lockActive = false → s.view.Quiet) :
    Tightens g s (if late then s.removeLockTimer.activateLockTimeout
      else s.removeLockTimer.addLockTimer timeout) := by
  intro hs
  obtain ⟨hact, hen, hlock⟩ := removeLockTimer_manager s
  have hview := view_removeLockTimer s
  have hdrop : Tightens g s s.removeLockTimer := by
    rw [Tightens, hview]
    exact (LockScreen.Keeps.dropTimer (r := True) s.view).tightens
  have hnil : s.removeLockTimer.view.timers = [] := hview ▸ dropTimer_timers hs
  have ha' := hact.trans ha
  split
  · next ho =>
    have hexpire : Tightens g s.removeLockTimer s.removeLockTimer.activateLockTimeout :=
      tightens_activateLockTimeout ha' (List.map_eq_nil_iff.1 hnil) fun h he hl =>
        (removeLockTimer_quiet s).2 (hg h ho (hen ▸ he) (hlock ▸ hl))
    exact hdrop.trans hexpire hs
  · have hadd : Tightens g s.removeLockTimer (s.removeLockTimer.addLockTimer timeout) := by
      rw [Tightens, view_addLockTimer]
      exact (LockScreen.Keeps.addTimer (r := True) ha' hnil).tightens
    exact hdrop.trans hadd hs

theorem tightens_gsManagerSetLockTimeout {g : Prop} (env : SaverEnv) (s : Saver) (timeout : Int)
    (hg : g → s.lockDue env s.manager.lockEnabled timeout → s.view.Quiet) :
    Tightens g s (s.gsManagerSetLockTimeout env timeout) := by
  simp only [gsManagerSetLockTimeout]
  split
  · next hne =>
    split
    · next hc =>
      simp only [Bool.and_eq_true, Bool.not_eq_true', decide_eq_true_eq] at hc
      obtain ⟨⟨ha, hl⟩, hpos⟩ := hc
      exact tightens_restart (s := s.modifyManager fun m => { m with lockTimeout := timeout }) ha _
        fun h ho he _ => hg h ⟨hne, ha, hl, hpos, ho, he⟩
    · exact (keeps_of_view (r := True) (s := s) rfl).tightens
  · exact (LockScreen.Keeps.refl (r := True)).tightens

end Saver
end MateScreensaver

import MateScreensaver.LockRequest

/-!
The lock that is due: the timer that is armed when a window is shown, what the
settings do to it, and when it is used up without any effect.
-/

namespace MateScreensaver
open Runs System

/- The fields of the manager that the lock timer depends on. -/
structure LockTimer where
  active : Bool
  lockActive : Bool
  lockEnabled : Bool
  lockTimeout : Int
  lockTimeoutId : SourceId
  activateTime : Nat

def GSManager.lockTimer (m : GSManager) : LockTimer :=
  ⟨m.active, m.lockActive, m.lockEnabled, m.lockTimeout, m.lockTimeoutId, m.activateTime⟩

namespace Saver

variable {p c : Prop} {offset : Nat} {env : SaverEnv} {s t u : Saver} {w : WindowId}

def Shown (s : Saver) : Prop := ∃ w win, s.windows w = some win ∧ win.visible = true

/- Whole seconds, as the preferences give them. -/
def Whole (timeout : Int) : Prop := 0 ≤ timeout ∧ timeout % 1000 = 0

/- The wall clock in seconds, `offset` milliseconds ahead of the main loop. -/
def wall (offset now : Nat) : Nat := (now + offset) / 1000

def OnTime (offset : Nat) (m : GSManager) (x : Timer) : Prop :=
  ((wall offset x.due : Int) - m.activateTime) * 1000 ≤ m.lockTimeout

/-- The lock timer is armed; where the clocks agree it is on time. -/
def Coming (c : Prop) (offset : Nat) (s : Saver) : Prop :=
  ∃ x ∈ s.loop.activateLockTimeout, x.id = s.manager.lockTimeoutId ∧ (c → OnTime offset s.manager x)

/-- What the lock timer's state is while the lock may still be due: armed, or used
up while locking was off. Without an activation no window is shown. -/
structure Vigilant (c : Prop) (offset : Nat) (s : Saver) : Prop where
  whole : Whole s.manager.lockTimeout
  dark : s.manager.active = false → ¬ s.Shown
  coming : s.manager.active = true → s.manager.lockActive = false → s.Shown →
    s.Coming c offset ∨ s.manager.lockTimeoutId = 0 ∧ s.manager.lockEnabled = false

theorem Shown.of (h : t.Shown) (hw : ∀ w win', t.windows w = some win' →
    ∃ win, s.windows w = some win ∧ win'.visible = win.visible) : s.Shown := by
  obtain ⟨w, win', hwin, hv⟩ := h
  obtain ⟨win, hs, heq⟩ := hw w win' hwin
  exact ⟨w, win, hs, heq.symm.trans hv⟩

theorem Vigilant.same (h : s.Vigilant c offset) (hm : t.manager.lockTimer = s.manager.lockTimer)
    (timers : t.loop.activateLockTimeout = s.loop.activateLockTimeout) (shown : t.Shown → s.Shown) :
    t.Vigilant c offset := by
  have hact : t.manager.active = s.manager.active := congrArg LockTimer.active hm
  have hlock : t.manager.lockActive = s.manager.lockActive := congrArg LockTimer.lockActive hm
  have hen : t.manager.lockEnabled = s.manager.lockEnabled := congrArg LockTimer.lockEnabled hm
  have htime : t.manager.lockTimeout = s.manager.lockTimeout := congrArg LockTimer.lockTimeout hm
  have hid : t.manager.lockTimeoutId = s.manager.lockTimeoutId := congrArg LockTimer.lockTimeoutId hm
  have hwhen : t.manager.activateTime = s.manager.activateTime := congrArg LockTimer.activateTime hm
  refine ⟨htime ▸ h.whole, fun hoff ht => h.dark (hact ▸ hoff) (shown ht), fun hon hopen ht => ?_⟩
  rcases h.coming (hact ▸ hon) (hlock ▸ hopen) (shown ht) with ⟨x, hx, hxid, hxtime⟩ | ⟨h0, hno⟩
  · refine .inl ⟨x, timers ▸ hx, hxid.trans hid.symm, fun hc => ?_⟩
    rw [OnTime, hwhen, htime]
    exact hxtime hc
  · exact .inr ⟨hid.trans h0, hen.trans hno⟩

theorem Vigilant.pending (h : s.Vigilant c offset) (on : s.manager.active = true) (shown : s.Shown)
    (enabled : s.manager.lockEnabled = true) (hopen : s.manager.lockActive = false) : s.Coming c offset := by
  rcases h.coming on hopen shown with hcoming | ⟨-, hno⟩
  · exact hcoming
  · rw [enabled] at hno
    cases hno

theorem Vigilant.tuned (h : s.Vigilant c offset) (ht : Tuned p s t) : t.Vigilant c offset := by
  have hm : t.manager.bare.lockTimer = s.manager.bare.lockTimer := congrArg GSManager.lockTimer ht.manager
  refine h.same hm ht.lockTimers fun hshown => hshown.of fun w win' hw => ?_
  obtain ⟨win, hs, hbare⟩ := ht.window hw
  exact ⟨win, hs, (congrArg GSWindow.visible hbare :)⟩

/- The timer is armed for the moment at which the timeout is over. -/
theorem onTime_timer {now : Nat} {m : GSManager} {k : Int} (id : SourceId) (hwhole : Whole m.lockTimeout)
    (hk : k = (wall offset now - m.activateTime) * 1000) (hlate : k ≤ m.lockTimeout) :
    OnTime offset m ⟨id, now + (m.lockTimeout - k).toNat, (m.lockTimeout - k).toNat⟩ := by
  obtain ⟨hpos, hmod⟩ := hwhole
  unfold wall at hk
  show (((now + (m.lockTimeout - k).toNat + offset) / 1000 : Nat) - m.activateTime : Int) * 1000 ≤ m.lockTimeout
  generalize m.lockTimeout = timeout at hpos hmod hlate ⊢
  omega

theorem Vigilant.appeared (h : s.Vigilant c offset) (on : s.manager.active = true)
    (hclock : c → env.time = wall offset s.loop.now) (ha : Appeared env w s t) : t.Vigilant c offset := by
  have hpos := h.whole.1
  have htimers := ha.lockTimers
  rw [if_pos hpos] at htimers
  have hm := congrArg GSManager.lockTimer ha.manager
  rw [if_pos hpos] at hm
  have htime : t.manager.lockTimeout = s.manager.lockTimeout := congrArg LockTimer.lockTimeout hm
  have hid : t.manager.lockTimeoutId = s.loop.nextId := congrArg LockTimer.lockTimeoutId hm
  have hwhen : t.manager.activateTime = env.time := congrArg LockTimer.activateTime hm
  have hact : t.manager.active = s.manager.active := congrArg LockTimer.active hm
  refine ⟨htime ▸ h.whole, fun hoff => ?_, fun _ _ _ => .inl ⟨s.loop.timer s.manager.lockTimeout.toNat, ?_, hid.symm, ?_⟩⟩
  · rw [hact, on] at hoff
    cases hoff
  · rw [htimers]
    exact List.mem_append_right _ (List.mem_singleton_self _)
  · intro hc
    have hwhole : Whole t.manager.lockTimeout := htime ▸ h.whole
    have hsame : ((wall offset s.loop.now : Nat) - t.manager.activateTime : Int) * 1000 = 0 := by
      rw [hwhen, hclock hc]
      simp
    have harm := onTime_timer s.loop.nextId hwhole hsame.symm hwhole.1
    rw [Int.sub_zero, htime] at harm
    exact harm

/-! ### Moves that no timer goes by -/

/-- Nothing that either timer of the manager depends on is different, and no more
windows are shown. -/
structure Timeless (s t : Saver) : Prop where
  lockTimer : t.manager.lockTimer = s.manager.lockTimer
  cycleTimeout : t.manager.cycleTimeout = s.manager.cycleTimeout
  cycleTimeoutId : t.manager.cycleTimeoutId = s.manager.cycleTimeoutId
  now : t.loop.now = s.loop.now
  lockTimers : t.loop.activateLockTimeout = s.loop.activateLockTimeout
  cycleTimers : t.loop.cycleTimeout = s.loop.cycleTimeout
  shown : t.Shown → s.Shown

/- The records of the windows aside, only other fields of the manager change. -/
theorem Timeless.of_loop (manager : ∃ jobs up, t.manager = { s.manager with jobs := jobs, dialogUp := up })
    (loop : t.loop = s.loop) (shown : t.Shown → s.Shown) : Timeless s t := by
  obtain ⟨jobs, up, hm⟩ := manager
  refine ⟨?_, ?_, ?_, congrArg MainLoop.now loop, congrArg MainLoop.activateLockTimeout loop,
    congrArg MainLoop.cycleTimeout loop, shown⟩
  · rw [hm]
    rfl
  · rw [hm]
  · rw [hm]

def AppearsIn (env : SaverEnv) (s t : Saver) : Prop :=
  ∃ w, s.manager.active = true ∧ s.Live w ∧ (s.window w).visible = false ∧ t = s.gtkWidgetShow env w

/- Only a window that appears sets the timers. -/
theorem Calm.timeless (h : Calm p env s t) : Timeless s t ∨ AppearsIn env s t := by
  cases h with
  | still ht =>
    refine .inl ⟨by rw [ht.manager], by rw [ht.manager], by rw [ht.manager], ht.now, ht.lockTimers, ht.cycleTimers,
      fun hshown => hshown.of fun w win' hw => ?_⟩
    obtain ⟨win, hs, hbare⟩ := ht.tuned.window hw
    exact ⟨win, hs, (congrArg GSWindow.visible hbare :)⟩
  | raise w on down off live =>
    have hr := raised_windowSetDialogUp env off live
    refine .inl (.of_loop ⟨_, _, hr.manager⟩ hr.loop fun hs => hs.of fun v win' hv => ?_)
    obtain ⟨win, _, _, hwin, rfl⟩ := hr.window hv
    exact ⟨win, hwin, rfl⟩
  | lower w up =>
    have hl := lowered_windowSetDialogUp env up
    obtain ⟨start, -, hm⟩ := hl.manager
    refine .inl (.of_loop ⟨_, _, hm⟩ hl.loop fun hs => hs.of fun v win' hv => ?_)
    obtain ⟨win, _, _, hwin, rfl⟩ := hl.window hv
    exact ⟨win, hwin, rfl⟩
  | jobs f hf => exact .inl (.of_loop ⟨_, _, rfl⟩ rfl fun hs => hs)
  | obscure w b live =>
    have hrec := records_modifyWindow s w fun win => { win with obscured := b }
    refine .inl (.of_loop ⟨_, _, hrec.manager⟩ hrec.loop fun hs => hs.of fun v win' hv => ?_)
    obtain ⟨win, _, hwin, rfl⟩ := obscured_window hv
    exact ⟨win, hwin, rfl⟩
  | appear w on live hidden => exact .inr ⟨w, on, live, hidden, rfl⟩

theorem Act.timeless (h : Act p env s t) :
    Timeless s t ∨ AppearsIn env s t ∨ s.manager.active = false ∧ t = s.turnedOn := by
  cases h with
  | calm hc => exact hc.timeless.imp_right .inl
  | plug d => exact .inl (.of_loop ⟨_, _, rfl⟩ rfl fun hs => hs)
  | create m down =>
    refine .inl ⟨rfl, rfl, rfl, rfl, rfl, rfl, fun hs => ?_⟩
    obtain ⟨v, win, hv, hvis⟩ := hs
    have hv' : (if v = s.nextWindow then some (gsWindowNew m s.manager) else s.windows v) = some win := hv
    split at hv'
    · cases hv'
      cases hvis
    · exact ⟨v, win, hv', hvis⟩
  | turnOn off => exact .inr (.inr ⟨off, rfl⟩)
  | dropJob w => exact .inl (.of_loop ⟨_, _, rfl⟩ rfl fun hs => hs)
  | gone w down silent unused =>
    refine .inl ⟨rfl, rfl, rfl, rfl, rfl, rfl, fun hs => hs.of fun v win' hv => ?_⟩
    have hv' : (if v = w then none else s.windows v) = some win' := hv
    split at hv'
    · cases hv'
    · exact ⟨win', hv', rfl⟩

theorem Vigilant.calm (h : s.Vigilant c offset) (hclock : c → env.time = wall offset s.loop.now)
    (hc : Calm p env s t) : t.Vigilant c offset := by
  rcases hc.timeless with ht | ⟨w, on, live, hidden, rfl⟩
  · exact h.same ht.lockTimer ht.lockTimers ht.shown
  · exact h.appeared on hclock (appeared_gtkWidgetShow env live hidden)

theorem Vigilant.act (h : s.Vigilant c offset) (hclock : c → env.time = wall offset s.loop.now)
    (ha : Act p env s t) : t.Vigilant c offset := by
  rcases ha.timeless with ht | ⟨w, on, live, hidden, rfl⟩ | ⟨off, rfl⟩
  · exact h.same ht.lockTimer ht.lockTimers ht.shown
  · exact h.appeared on hclock (appeared_gtkWidgetShow env live hidden)
  · -- nothing is shown yet
    have hdark : ¬ s.turnedOn.Shown := h.dark off
    exact ⟨h.whole, fun hoff => (nomatch hoff), fun _ _ hs => absurd hs hdark⟩

theorem Act.now (h : Act p env s t) : t.loop.now = s.loop.now := by
  cases h with
  | calm h => exact h.steady.now
  | plug d => rfl
  | create m down => rfl
  | turnOn off => rfl
  | dropJob w => rfl
  | gone w down silent unused => rfl

theorem Acts.now (h : Acts p env s t) : t.loop.now = s.loop.now := by
  induction h with
  | refl => rfl
  | tail _ h ih => exact h.now.trans ih

theorem Vigilant.acts (h : s.Vigilant c offset) (hclock : c → env.time = wall offset s.loop.now)
    (ha : Acts p env s t) : t.Vigilant c offset := by
  induction ha with
  | refl => exact h
  | tail hbefore ha ih =>
    refine ih.act (fun hc => ?_) ha
    rw [Acts.now hbefore]
    exact hclock hc

/-! ### The lock and its settings -/

theorem setLockActive_manager (b : Bool) (hh : s.Housed) :
    (s.gsManagerSetLockActive b).manager = { s.manager with lockActive := b } := by
  rcases relocked_gsManagerSetLockActive b hh with ⟨hsame, hb⟩ | h
  · rw [hsame, ← hb]
  · exact h.manager

theorem Locking.shown (h : Locking s t) (ht : t.Shown) : s.Shown := by
  refine ht.of fun w win' hw => ?_
  obtain ⟨win, _, hs, rfl⟩ := h.window hw
  exact ⟨win, hs, rfl⟩

theorem Vigilant.locking (h : s.Vigilant c offset) (hl : Locking s t) (whole : Whole t.manager.lockTimeout)
    (coming : t.manager.active = true → t.manager.lockActive = false → s.Shown →
      t.Coming c offset ∨ t.manager.lockTimeoutId = 0 ∧ t.manager.lockEnabled = false) : t.Vigilant c offset := by
  exact ⟨whole, fun hoff ht => h.dark (hl.active ▸ hoff) (hl.shown ht), fun hon hopen ht => coming hon hopen (hl.shown ht)⟩

theorem Vigilant.setLockActive (h : s.Vigilant c offset) (hh : s.Housed) {b : Bool}
    (hb : b = true ∨ s.manager.active = false) : (s.gsManagerSetLockActive b).Vigilant c offset := by
  have hm := setLockActive_manager b hh
  refine h.locking (locking_gsManagerSetLockActive b hh) (by rw [hm]; exact h.whole) fun hon hopen _ => ?_
  rw [hm] at hon hopen
  have hon' : s.manager.active = true := hon
  have hopen' : b = false := hopen
  rcases hb with hb | hoff
  · rw [hb] at hopen'
    cases hopen'
  · rw [hoff] at hon'
    cases hon'

/- The timer's turn: it locks, or it is used up while locking is off. -/
theorem activateLockTimeout_spent (hh : s.Housed) :
    s.activateLockTimeout.manager.lockTimeout = s.manager.lockTimeout ∧
    (s.activateLockTimeout.manager.lockActive = false →
      s.activateLockTimeout.manager.lockTimeoutId = 0 ∧ s.activateLockTimeout.manager.lockEnabled = false) := by
  have hm := setLockActive_manager true hh
  simp only [activateLockTimeout]
  split
  · next hen =>
    refine ⟨?_, fun hopen => ?_⟩
    · show (s.gsManagerSetLockActive true).manager.lockTimeout = s.manager.lockTimeout
      rw [hm]
    · have hopen' : (s.gsManagerSetLockActive true).manager.lockActive = false := hopen
      rw [hm] at hopen'
      cases hopen'
  · next hen => exact ⟨rfl, fun _ => ⟨rfl, Bool.not_eq_true _ ▸ hen⟩⟩

theorem Vigilant.expired (h : s.Vigilant c offset) (ht : Locking s t) (hh : t.Housed)
    (whole : Whole t.manager.lockTimeout) : t.activateLockTimeout.Vigilant c offset := by
  obtain ⟨htimeout, hspent⟩ := activateLockTimeout_spent hh
  exact h.locking (ht.trans (locking_activateLockTimeout hh)) (htimeout ▸ whole) fun _ hopen _ =>
    .inr (hspent hopen)

/- The dispatch of the timer takes it off the loop as well. -/
theorem Vigilant.fired (h : s.Vigilant c offset) (hh : s.Housed) (id : SourceId) :
    (s.activateLockTimeout.modifyLoop fun l =>
      { l with activateLockTimeout := MainLoop.removeTimer id l.activateLockTimeout }).Vigilant c offset := by
  obtain ⟨htimeout, hspent⟩ := activateLockTimeout_spent hh
  have hl := (locking_activateLockTimeout hh).trans (u := s.activateLockTimeout.modifyLoop fun l =>
      { l with activateLockTimeout := MainLoop.removeTimer id l.activateLockTimeout })
    (.of_windows rfl rfl rfl rfl rfl rfl rfl rfl fun hi => hi.modifyLoop (fun x hx => .inl hx) (fun x hx => .inl hx)
      (fun x hx => hx) (fun x hx => hx) (Nat.le_refl _))
  have hwhole : Whole s.activateLockTimeout.manager.lockTimeout := htimeout ▸ h.whole
  exact h.locking hl hwhole fun _ hopen _ => .inr (hspent hopen)

/- A timer for what is left of the timeout comes on time. -/
theorem Vigilant.rearmed (h : s.Vigilant c offset) {v : Saver} (hl : Locking s v) (whole : Whole v.manager.lockTimeout)
    (hclock : c → env.time = wall offset s.loop.now)
    (early : v.elapsedSinceActivation env < v.manager.lockTimeout) :
    (v.removeLockTimer.addLockTimer (v.manager.lockTimeout - v.elapsedSinceActivation env).toNat).Vigilant c offset := by
  have hlv := hl.trans (locking_removeLockTimer v)
  have hm : v.removeLockTimer.manager = { v.manager with lockTimeoutId := 0 } := by rw [removeLockTimer_eq]
  let u := v.removeLockTimer.addLockTimer (v.manager.lockTimeout - v.elapsedSinceActivation env).toNat
  have hu : u.manager = { v.manager with lockTimeoutId := v.removeLockTimer.loop.nextId } := by
    show { v.removeLockTimer.manager with lockTimeoutId := v.removeLockTimer.loop.nextId } = _
    rw [hm]
  have htimeout : u.manager.lockTimeout = v.manager.lockTimeout := by rw [hu]
  refine h.locking (hlv.trans (locking_addLockTimer _ _)) (htimeout.symm ▸ whole) fun _ _ _ => .inl ?_
  refine ⟨v.removeLockTimer.loop.timer (v.manager.lockTimeout - v.elapsedSinceActivation env).toNat, ?_, rfl,
    fun hc => ?_⟩
  · exact List.mem_append_right _ (List.mem_singleton_self _)
  · have hk : v.elapsedSinceActivation env =
        ((wall offset s.loop.now : Int) - u.manager.activateTime) * 1000 := by
      rw [← hclock hc, hu]
      rfl
    have harm := onTime_timer (m := u.manager) v.removeLockTimer.loop.nextId (htimeout ▸ whole) hk
      (htimeout.symm ▸ Int.le_of_lt early)
    rw [htimeout] at harm
    rw [MainLoop.timer, hlv.now]
    exact harm

/- A new timeout restarts the timer with what is left of it. Only where the timeout
stays does it matter that locking is switched on too late. -/
theorem Vigilant.lockSettings (h : s.Vigilant c offset) (hh : s.Housed) {b : Bool} {n : Int} (hn : Whole n)
    (hclock : c → env.time = wall offset s.loop.now)
    (hb : s.manager.active = true → s.manager.lockActive = false → s.Shown → s.manager.lockTimeoutId = 0 →
      n = s.manager.lockTimeout → s.manager.lockEnabled = false → b = false) :
    ((s.gsManagerSetLockEnabled b).gsManagerSetLockTimeout env n).Vigilant c offset := by
  let v := s.gsManagerSetLockEnabled b
  have hset : Locking s v := locking_manager rfl
  by_cases hne : v.manager.lockTimeout = n
  · have hsame : v.gsManagerSetLockTimeout env n = v := by
      simp [gsManagerSetLockTimeout, hne]
    show (v.gsManagerSetLockTimeout env n).Vigilant c offset
    rw [hsame]
    refine h.locking hset h.whole fun hon hopen hshown => ?_
    rcases h.coming hon hopen hshown with hcoming | ⟨h0, hno⟩
    · exact .inl hcoming
    · exact .inr ⟨h0, hb hon hopen hshown h0 hne.symm hno⟩
  · let v1 := v.modifyManager fun m => { m with lockTimeout := n }
    have h1 : Locking s v1 := hset.trans (locking_manager rfl)
    by_cases hrun : (v1.manager.active && !v1.manager.lockActive && decide (0 ≤ n)) = true
    · have hrest : v.gsManagerSetLockTimeout env n = if v1.elapsedSinceActivation env ≥ n then
          v1.removeLockTimer.activateLockTimeout
          else v1.removeLockTimer.addLockTimer (n - v1.elapsedSinceActivation env).toNat := by
        simp only [gsManagerSetLockTimeout, ne_eq, hne, not_false_eq_true, if_true]
        rw [if_pos hrun]
      show (v.gsManagerSetLockTimeout env n).Vigilant c offset
      rw [hrest]
      split
      · -- the moment has passed: it is the timer's turn now
        have h2 : Locking s v1.removeLockTimer := h1.trans (locking_removeLockTimer v1)
        refine h.expired h2 (h2.housed hh) ?_
        rw [removeLockTimer_eq]
        exact hn
      · next hearly => exact h.rearmed h1 hn hclock (Int.not_le.1 hearly)
    · have heq : v.gsManagerSetLockTimeout env n = v1 := by
        simp only [gsManagerSetLockTimeout, ne_eq, hne, not_false_eq_true, if_true]
        rw [if_neg hrun]
      show (v.gsManagerSetLockTimeout env n).Vigilant c offset
      rw [heq]
      refine h.locking h1 hn fun hon hopen _ => absurd ?_ hrun
      rw [hon, hopen, decide_eq_true hn.1]
      rfl

end Saver

namespace Screensaver
open Saver (Whole Vigilant Coming OnTime wall)

variable {p c : Prop} {offset : Nat} {s₀ s t : Screensaver} {env : Env} {e : Event} {v u : Saver}

/-! ### The preferences -/

theorem whole_prefsLockTimeout (value : Int) : Whole (prefsLockTimeout value) := by
  unfold Whole prefsLockTimeout clampDelay
  dsimp only
  split
  · split
    · omega
    · omega
  · split
    · omega
    · omega

theorem whole_keyChanged {q : GSPrefs} (h : Whole q.lockTimeout) (k : KeyChange) : Whole (q.keyChanged k).lockTimeout := by
  cases k with
  | lockDelay value => exact whole_prefsLockTimeout value
  | _ => exact h

theorem setActive_prefs (env : Env) (s : Screensaver) (b : Bool) :
    (s.gsListenerSetActive env b).2.prefs = s.prefs := by
  have hcb : (s.listenerActiveChangedCb env b).2.prefs = s.prefs := by
    simp only [listenerActiveChangedCb]
    split
    · rfl
    · rfl
  simp only [gsListenerSetActive]
  split
  · rfl
  · split
    · split
      · exact hcb
      · exact hcb
    · rw [listenerSetActiveInternal_eq]
      split
      · exact hcb
      · exact hcb

theorem setSessionIdle_prefs (env : Env) (s : Screensaver) (b : Bool) :
    (s.gsListenerSetSessionIdle env b).2.prefs = s.prefs := by
  let v := s.modifyListener fun l => { l with sessionIdle := b }
  have hcheck : (v.listenerCheckActivation env).2.prefs = s.prefs := by
    simp only [listenerCheckActivation]
    split
    · rfl
    · split
      · rfl
      · split
        · rfl
        · exact setActive_prefs env v true
  simp only [gsListenerSetSessionIdle]
  split
  · rfl
  · split
    · rfl
    · split
      · exact hcheck
      · exact hcheck

theorem part_prefs (hp : Part p env s₀ e s t) : t.prefs = s.prefs ∨ ∃ k, t.prefs = s.prefs.keyChanged k := by
  cases hp with
  | prefs k he => exact .inr ⟨k, rfl⟩
  | activate why => exact .inl (setActive_prefs env s true)
  | deactivate ends first => exact .inl (setActive_prefs env s false)
  | idle b off => exact .inl (setSessionIdle_prefs env s b)
  | stored type entry new own fresh =>
    obtain ⟨_, _, _, heq⟩ := stored_eq env type entry s
    rw [heq]
    exact .inl rfl
  | dropped type cookie entry found =>
    rw [dropped_eq]
    exact .inl rfl
  | purged type name =>
    rw [purged_eq]
    exact .inl rfl
  | throttle b first =>
    refine .inl ?_
    simp only [gsListenerSetThrottle]
    split
    · rfl
    · rfl
  | _ => exact .inl rfl

theorem parts_whole (hp : Parts p env s₀ e s t) (h : Whole s.prefs.lockTimeout) : Whole t.prefs.lockTimeout := by
  induction hp with
  | refl => exact h
  | tail _ hpart ih =>
    rcases part_prefs hpart with hsame | ⟨k, hk⟩
    · rw [hsame]
      exact ih
    · rw [hk]
      exact whole_keyChanged ih k

/-! ### A step, and a run -/

/-- Locking is not switched on by the settings while it is too late: the timer is
used up and the timeout stays. -/
def SwitchesInTime (s : Screensaver) (label : Env × Event) : Prop :=
  ∀ k, label.2 = .keyChanged k → s.saver.manager.active = true → s.saver.manager.lockActive = false →
    s.saver.Shown → s.saver.manager.lockTimeoutId = 0 →
    (s.prefs.keyChanged k).lockTimeout = s.saver.manager.lockTimeout → s.saver.manager.lockEnabled = false →
    ((s.prefs.keyChanged k).lockEnabled && !(s.prefs.keyChanged k).lockDisabled) = false

/- time () reads a clock that runs with that of the main loop. -/
def KeepsTime (offset : Nat) (s : Screensaver) (label : Env × Event) : Prop :=
  label.1.time = wall offset (s.saver.loop.now + label.1.elapsed)

theorem Kind.now (h : Kind p env s₀ e v u) (hs : s₀.saver.view.Sound) (hh : v.Housed) :
    u.loop.now = v.loop.now := by
  cases h with
  | calm h => exact h.steady.now
  | tune h => exact h.now
  | locking h => exact h.now
  | activate off granted => exact (Saver.gsManagerActivate_acts (p := p) hh off granted).1.now
  | deactivate ends first on => exact (Saver.gsManagerDeactivate_ended env.toSaverEnv hh on).now
  | added m he first new =>
    subst first
    exact (Saver.monitorAdded_spec (p := p) (s := (s₀.tick env).saver) env m hs hh).1.now
  | removed m he first => exact (Saver.monitorRemoved_spec (p := False) env m hh False.elim).1.now
  | throttle b first =>
    obtain ⟨jobs, hjobs⟩ := throttled_eq env.toSaverEnv v b
    rw [hjobs]

theorem vigilant_does (hd : Does p env s₀ e v u) (hs : s₀.saver.view.Sound) (hh : v.Housed)
    (hprefs : Whole s₀.prefs.lockTimeout) (hswitch : SwitchesInTime s₀ (env, e))
    (hclock : c → env.time = wall offset v.loop.now) (h : v.Vigilant c offset) : u.Vigilant c offset := by
  cases hd with
  | calm hc => exact h.calm hclock hc
  | tune ht mirrors silent cycle release => exact h.tuned (ht hh)
  | activate off granted => exact h.acts hclock (Saver.gsManagerActivate_acts (p := p) hh off granted).1
  | deactivate ends first on =>
    have hended := Saver.gsManagerDeactivate_ended env.toSaverEnv hh on
    have hdark : ¬ (v.gsManagerDeactivate env.toSaverEnv).2.Shown := by
      rintro ⟨w, win, hw, -⟩
      rw [hended.lost] at hw
      cases hw
    exact ⟨hended.lockTimeout ▸ h.whole, fun _ => hdark, fun _ _ hshown => absurd hshown hdark⟩
  | added m he first new =>
    subst first
    exact h.acts hclock (Saver.monitorAdded_spec (p := p) (s := (s₀.tick env).saver) env m hs hh).1
  | removed m he first => exact h.acts hclock (Saver.monitorRemoved_spec (p := False) env m hh False.elim).1
  | lock request allowed => exact h.setLockActive hh (.inl rfl)
  | unlock off => exact h.setLockActive hh (.inr off)
  | lockTimer id he first due => exact h.fired hh id
  | lockSettings k he first =>
    subst first
    exact h.lockSettings hh (whole_keyChanged hprefs k) hclock fun hon hopen hshown h0 hsame hno =>
      hswitch k he hon hopen hshown h0 hsame hno
  | throttle b first =>
    obtain ⟨jobs, hjobs⟩ := throttled_eq env.toSaverEnv v b
    rw [hjobs]
    exact h.same rfl rfl fun hshown => hshown

/- Every part of a step happens at the same time. -/
theorem vigilant_alldone (hd : AllDone p env s₀ e v u) (hs : s₀.saver.view.Sound) (hh : v.Housed)
    (hprefs : Whole s₀.prefs.lockTimeout) (hswitch : SwitchesInTime s₀ (env, e))
    (hclock : c → env.time = wall offset v.loop.now) (h : v.Vigilant c offset) : u.Vigilant c offset := by
  have hboth : u.loop.now = v.loop.now ∧ u.Vigilant c offset := by
    induction hd with
    | refl => exact ⟨rfl, h⟩
    | tail hbefore hd ih =>
      obtain ⟨hnow, hvigilant⟩ := ih
      have hhouse := AllDone.housed hbefore hs hh
      refine ⟨((hd.kind hhouse).now hs hhouse).trans hnow, ?_⟩
      refine vigilant_does hd hs hhouse hprefs hswitch (fun hc => ?_) hvigilant
      rw [hnow]
      exact hclock hc
  exact hboth.2

theorem vigilant_step (hs : s.Agreed ∧ s.saver.Housed) (hprefs : Whole s.prefs.lockTimeout)
    (h : s.saver.Vigilant c offset) (hstep : s.step (env, e) = some t) (hswitch : SwitchesInTime s (env, e))
    (hclock : c → KeepsTime offset s (env, e)) :
    (t.Agreed ∧ t.saver.Housed) ∧ Whole t.prefs.lockTimeout ∧ t.saver.Vigilant c offset := by
  have hparts := parts_step (p := False) hs.1 hs.2 False.elim hstep
  have hhouse := tick_housed hs.2 env
  refine ⟨housed_invariant.step _ _ _ hs hstep, parts_whole hparts hprefs, ?_⟩
  exact vigilant_alldone hparts.done hs.1.sound hhouse hprefs hswitch hclock (h.same rfl rfl fun hshown => hshown)

/-- While the saver is active, unlocked and to be locked, with a window shown, the
timer that locks is attached. -/
def LockPending (s : Screensaver) : Prop :=
  s.saver.manager.active = true → s.saver.Shown → s.saver.manager.lockEnabled = true →
    s.saver.manager.lockActive = false →
    ∃ x ∈ s.saver.loop.activateLockTimeout, x.id = s.saver.manager.lockTimeoutId

/-- And it fires no later than the lock timeout after the activation, in the seconds
that the time of the activation is kept in. -/
def LockInTime (offset : Nat) (s : Screensaver) : Prop :=
  s.saver.manager.active = true → s.saver.Shown → s.saver.manager.lockEnabled = true →
    s.saver.manager.lockActive = false →
    ∃ x ∈ s.saver.loop.activateLockTimeout, x.id = s.saver.manager.lockTimeoutId ∧
      OnTime offset s.saver.manager x

/- At the start nothing is shown and no clock has been read. -/
theorem start_vigilant (b : Boot) (env : Env) :
    Whole (b.start env).prefs.lockTimeout ∧ (b.start env).saver.Vigilant c offset := by
  have hwhole : Whole b.unsettled.prefs.lockTimeout := whole_prefsLockTimeout b.settings.lockDelay
  have hprefs : (b.start env).prefs = b.unsettled.prefs := updateFromPrefs_prefs env b.unsettled
  have h0 : b.unsettled.saver.Vigilant False offset := by
    refine ⟨⟨Int.le_refl 0, rfl⟩, fun _ => ?_, fun hon => absurd hon Bool.false_ne_true⟩
    rintro ⟨w, win, hw, -⟩
    cases hw
  have hlock : (lockSet b env).Vigilant False offset :=
    h0.lockSettings (unsettled_housed b) hwhole False.elim fun hon => absurd hon Bool.false_ne_true
  have hoff : (b.start env).saver.manager.active = false := (start_agreed b env).2.2
  have hset := hlock.tuned (tuned_start True b env)
  refine ⟨hprefs ▸ hwhole, hset.whole, hset.dark, fun hon => ?_⟩
  rw [hoff] at hon
  cases hon

theorem vigilant_always (offset : Nat) {P : Screensaver → Prop} (b : Boot) (env : Env) {es : List (Env × Event)}
    (hP : ∀ s : Screensaver, s.saver.Vigilant c offset → P s)
    (h : screensaver.Meets (fun s l => SwitchesInTime s l ∧ (c → KeepsTime offset s l)) (b.start env) es) :
    screensaver.Always P (b.start env) es := by
  refine always_of_meets (I := fun s => (s.Agreed ∧ s.saver.Housed) ∧ Whole s.prefs.lockTimeout ∧
    s.saver.Vigilant c offset) (fun s hs => hP s hs.2.2) (fun s l t hs hn hc => ?_)
    ⟨start_housed b env, start_vigilant b env⟩ h
  exact vigilant_step hs.1 hs.2.1 hs.2.2 hn hc.1 hc.2

/-- In a run in which locking is not switched on too late, the timer is armed
whenever the lock is due to come; and as long as the clocks agree it is on time. -/
theorem lock_due_always (b : Boot) (env : Env) {es : List (Env × Event)}
    (h : screensaver.Meets SwitchesInTime (b.start env) es) :
    screensaver.Always LockPending (b.start env) es ∧
    ∀ offset, screensaver.Meets (KeepsTime offset) (b.start env) es →
      screensaver.Always (LockInTime offset) (b.start env) es := by
  constructor
  · refine vigilant_always (c := False) 0 b env (fun s hs on shown enabled hopen => ?_)
      (h.mono fun s l t _ hc => ⟨hc, False.elim⟩)
    obtain ⟨x, hx, hid, -⟩ := hs.pending on shown enabled hopen
    exact ⟨x, hx, hid⟩
  · intro offset hkeeps
    refine vigilant_always (c := True) offset b env (fun s hs on shown enabled hopen => ?_)
      ((h.and hkeeps).mono fun s l t _ hc => ⟨hc.1, fun _ => hc.2⟩)
    obtain ⟨x, hx, hid, htime⟩ := hs.pending on shown enabled hopen
    exact ⟨x, hx, hid, htime trivial⟩

/- The delay is changed while the timer runs. -/
def delayed : List (Env × Event) := [turnOn, (granted, .keyChanged (.lockDelay 5))]

theorem lock_due_delayed : screensaver.Always LockPending (desk.start granted) delayed ∧
    screensaver.Always (LockInTime 1000) (desk.start granted) delayed := by
  have hmeets : screensaver.Meets SwitchesInTime (desk.start granted) delayed := by
    refine fun s hs => ⟨fun k hk => (by cases hk), fun t ht => ⟨fun k _ _ _ _ h0 => ?_, trivial⟩⟩
    have hs' : s = (screensaver.next (desk.start granted) turnOn).get (by decide) := by simp [hs]
    subst hs'
    exact absurd h0 (by decide)
  have hkeeps : screensaver.Meets (KeepsTime 1000) (desk.start granted) delayed := by
    refine fun s hs => ⟨rfl, fun t ht => ⟨?_, trivial⟩⟩
    have hs' : s = (screensaver.next (desk.start granted) turnOn).get (by decide) := by simp [hs]
    subst hs'
    rfl
  obtain ⟨hpending, htime⟩ := lock_due_always desk granted hmeets
  exact ⟨hpending, htime 1000 hkeeps⟩

/- Locking is off when the timer fires, and is switched on afterwards. -/
def overdue : List (Env × Event) :=
  [(granted, .keyChanged (.lockEnabled false)), turnOn, (granted, .activateLockTimeout 1),
   (granted, .keyChanged (.lockEnabled true))]

theorem lock_forgotten : ¬ ∀ s, screensaver.Reachable s → LockPending s := by
  intro h
  let s := (screensaver.run (desk.start granted) overdue).get (by decide)
  have hs : screensaver.Reachable s := desk_reachable overdue (by simp [s])
  have hwin : (s.saver.windows 0).map GSWindow.visible = some true := by decide
  obtain ⟨win, hw, hvisible⟩ := Option.map_eq_some_iff.1 hwin
  have hnone : s.saver.loop.activateLockTimeout = [] := by decide
  obtain ⟨x, hx, -⟩ := h s hs (by decide) ⟨0, win, hw, hvisible⟩ (by decide) (by decide)
  rw [hnone] at hx
  cases hx

end Screensaver
end MateScreensaver

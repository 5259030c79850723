import MateScreensaver.Lifetime

/-!
The setters of the manager: settings that only windows and jobs take, the lock,
and the throttle.
-/

namespace MateScreensaver
namespace Saver

variable {p : Prop} {env : SaverEnv} {s t u : Saver} {w : WindowId}

theorem Housed.live (h : s.Housed) : ∀ w ∈ s.manager.windows, s.Live w := fun w hw => (h.listed w).1 hw

/-! ### Settings of the windows and jobs -/

theorem tuned_manager {f : GSManager → GSManager} (hf : (f s.manager).bare = s.manager.bare) :
    Tuned p s (s.modifyManager f) :=
  ⟨hf, fun _ => rfl, rfl, rfl, rfl, rfl, rfl, fun _ h => { h with }⟩

theorem tuned_windows {g : GSWindow → GSWindow} (hh : s.Housed) (twice : ∀ win, g (g win) = g win)
    (bare : ∀ win, (g win).bare = win.bare) (keyboard : ∀ win, (g win).keyboardWatchId = win.keyboardWatchId)
    (infoBar : ∀ win, (g win).infoBarTimerId = win.infoBarTimerId) :
    Tuned p s (s.forWindows fun w s => s.modifyWindow w g) := by
  obtain ⟨hrec, hfold, hused⟩ := modifyWindow_foldl g twice s.manager.windows s
  have hwin : ∀ v, (s.forWindows fun w s => s.modifyWindow w g).windows v =
      if v ∈ s.manager.windows then (s.windows v).map g else s.windows v := hfold
  have hbare : ∀ v, ((s.forWindows fun w s => s.modifyWindow w g).windows v).map GSWindow.bare =
      (s.windows v).map GSWindow.bare := by
    intro v
    rw [hwin]
    split
    · rw [Option.map_map]
      exact congrArg (Option.map · (s.windows v)) (funext bare)
    · rfl
  have htuned : Tuned False s (s.forWindows fun w s => s.modifyWindow w g) :=
    ⟨congrArg GSManager.bare hrec.manager, hbare, hrec.nextWindow, hrec.display, hrec.activation,
      congrArg MainLoop.now hrec.loop, congrArg MainLoop.activateLockTimeout hrec.loop, fun h => h.elim⟩
  refine { htuned with intact := fun _ hs => hs.same htuned.steady hrec.loop (hused hh.live) fun v win hv => ?_ }
  by_cases hm : v ∈ s.manager.windows
  · exact ⟨g win, by rw [hwin, if_pos hm, hv]; rfl, keyboard win, infoBar win⟩
  · exact ⟨win, by rw [hwin, if_neg hm, hv], rfl, rfl⟩

theorem tuned_setting {f : GSManager → GSManager} {g : GSWindow → GSWindow} (hh : s.Housed)
    (hf : (f s.manager).bare = s.manager.bare) (twice : ∀ win, g (g win) = g win)
    (bare : ∀ win, (g win).bare = win.bare) (keyboard : ∀ win, (g win).keyboardWatchId = win.keyboardWatchId)
    (infoBar : ∀ win, (g win).infoBarTimerId = win.infoBarTimerId) :
    Tuned p s ((s.modifyManager f).forWindows fun w s => s.modifyWindow w g) := by
  have hfirst : Tuned p s (s.modifyManager f) := tuned_manager hf
  exact hfirst.trans (tuned_windows (hh.steady hfirst.steady) twice bare keyboard infoBar)

theorem tuned_gsManagerSetLogoutEnabled (b : Bool) (hh : s.Housed) : Tuned p s (s.gsManagerSetLogoutEnabled b) := by
  simp only [gsManagerSetLogoutEnabled]
  split
  · exact tuned_setting hh rfl (fun _ => rfl) (fun _ => rfl) (fun _ => rfl) fun _ => rfl
  · exact .refl

theorem tuned_gsManagerSetKeyboardEnabled (b : Bool) (hh : s.Housed) :
    Tuned p s (s.gsManagerSetKeyboardEnabled b) := by
  simp only [gsManagerSetKeyboardEnabled]
  split
  · exact tuned_setting hh rfl (fun _ => rfl) (fun _ => rfl) (fun _ => rfl) fun _ => rfl
  · exact .refl

theorem tuned_gsManagerSetUserSwitchEnabled (b : Bool) (hh : s.Housed) :
    Tuned p s (s.gsManagerSetUserSwitchEnabled b) := by
  simp only [gsManagerSetUserSwitchEnabled]
  split
  · exact tuned_setting hh rfl (fun _ => rfl) (fun _ => rfl) (fun _ => rfl) fun _ => rfl
  · exact .refl

theorem tuned_gsManagerSetLogoutTimeout (n : Int) (hh : s.Housed) : Tuned p s (s.gsManagerSetLogoutTimeout n) := by
  simp only [gsManagerSetLogoutTimeout]
  split
  · exact tuned_setting hh rfl (fun _ => rfl) (fun _ => rfl) (fun _ => rfl) fun _ => rfl
  · exact .refl

theorem tuned_gsManagerSetLogoutCommand (c : Option String) (hh : s.Housed) :
    Tuned p s (s.gsManagerSetLogoutCommand c) :=
  tuned_setting hh rfl (fun _ => rfl) (fun _ => rfl) (fun _ => rfl) fun _ => rfl

theorem tuned_gsManagerSetKeyboardCommand (c : Option String) (hh : s.Housed) :
    Tuned p s (s.gsManagerSetKeyboardCommand c) :=
  tuned_setting hh rfl (fun _ => rfl) (fun _ => rfl) (fun _ => rfl) fun _ => rfl

theorem tuned_gsManagerSetStatusMessage (c : Option String) (hh : s.Housed) :
    Tuned p s (s.gsManagerSetStatusMessage c) :=
  tuned_setting hh rfl (fun _ => rfl) (fun _ => rfl) (fun _ => rfl) fun _ => rfl

theorem tuned_addCycleTimer (timeout : Nat) : Tuned p s (s.addCycleTimer timeout) :=
  ⟨rfl, fun _ => rfl, rfl, rfl, rfl, rfl, rfl, fun _ h => { h with pos := Nat.succ_pos _ }⟩

theorem tuned_gsManagerSetCycleTimeout (env : SaverEnv) (s : Saver) (n : Int) :
    Tuned p s (s.gsManagerSetCycleTimeout env n) := by
  simp only [gsManagerSetCycleTimeout]
  split
  · have hset : Tuned p s (s.modifyManager fun m => { m with cycleTimeout := n }) := tuned_manager rfl
    split
    · refine hset.trans ?_
      generalize s.modifyManager (fun m => { m with cycleTimeout := n }) = v
      have hdrop : Tuned p v v.removeCycleTimer := by
        rw [removeCycleTimer_eq]
        exact ⟨rfl, fun _ => rfl, rfl, rfl, rfl, rfl, rfl, fun _ h => { h with }⟩
      exact hdrop.trans (tuned_addCycleTimer _)
    · exact hset
  · exact .refl

theorem tuned_managerSettings (env : Env) (q : GSPrefs) (hh : s.Housed) :
    Tuned p s (Screensaver.managerSettings env q s) := by
  have hstep : ∀ {v : Saver} (f : Saver → Saver), (∀ v : Saver, v.Housed → Tuned p v (f v)) →
      Tuned p s v → Tuned p s (f v) := fun f hf h => h.trans (hf _ (hh.steady h.steady))
  have h1 := hstep (.gsManagerSetLogoutEnabled q.logoutEnabled) (fun _ h => tuned_gsManagerSetLogoutEnabled _ h)
    Tuned.refl
  have h2 := hstep (.gsManagerSetUserSwitchEnabled (q.userSwitchEnabled && !q.userSwitchDisabled))
    (fun _ h => tuned_gsManagerSetUserSwitchEnabled _ h) h1
  have h3 := hstep (.gsManagerSetKeyboardEnabled q.keyboardEnabled)
    (fun _ h => tuned_gsManagerSetKeyboardEnabled _ h) h2
  have h4 := hstep (.gsManagerSetLogoutTimeout q.logoutTimeout) (fun _ h => tuned_gsManagerSetLogoutTimeout _ h) h3
  have h5 := hstep (.gsManagerSetLogoutCommand q.logoutCommand) (fun _ h => tuned_gsManagerSetLogoutCommand _ h) h4
  have h6 := hstep (.gsManagerSetKeyboardCommand q.keyboardCommand)
    (fun _ h => tuned_gsManagerSetKeyboardCommand _ h) h5
  have h7 := hstep (.gsManagerSetCycleTimeout env.toSaverEnv q.cycle)
    (fun v _ => tuned_gsManagerSetCycleTimeout env.toSaverEnv v q.cycle) h6
  have h8 := hstep (.gsManagerSetMode q.mode) (fun _ _ => tuned_manager rfl) h7
  exact hstep (.gsManagerSetThemes q.themes) (fun _ _ => tuned_manager rfl) h8

/-! ### The cycle timer -/

/- What the manager knows of its cycles, and the timers for them. -/
structure CycleClock where
  active : Bool
  activateTime : Nat
  cycleTimeout : Int
  cycleTimeoutId : SourceId
  nextId : SourceId
  now : Nat
  timers : List Timer

def cycleClock (s : Saver) : CycleClock :=
  ⟨s.manager.active, s.manager.activateTime, s.manager.cycleTimeout, s.manager.cycleTimeoutId, s.loop.nextId,
    s.loop.now, s.loop.cycleTimeout⟩

/- How long a timer armed by the setting runs: what is left since the activation. -/
def CycleClock.left (time : Nat) (n : Int) (c : CycleClock) : Nat :=
  let elapsed := ((time : Int) - c.activateTime) * 1000
  (if elapsed ≥ n then 0 else n - elapsed).toNat

def CycleClock.set (time : Nat) (n : Int) (c : CycleClock) : CycleClock :=
  if c.cycleTimeout = n then c
  else if c.active = true ∧ 0 ≤ n then
    { c with
      cycleTimeout := n
      cycleTimeoutId := c.nextId
      nextId := c.nextId + 1
      timers := keptTimers c.cycleTimeoutId c.timers ++ [⟨c.nextId, c.now + c.left time n, c.left time n⟩] }
  else { c with cycleTimeout := n }

/- While the saver is off the setting is only stored. -/
theorem CycleClock.set_off {c : CycleClock} (off : c.active = false) (time : Nat) (n : Int) :
    c.set time n = { c with cycleTimeout := n } := by
  unfold set
  split
  · next hsame => rw [← hsame]
  · rw [if_neg fun hon => Bool.false_ne_true (off.symm.trans hon.1)]

theorem CycleClock.set_on {c : CycleClock} (on : c.active = true) {n : Int} (hn : 0 ≤ n)
    (hne : c.cycleTimeout ≠ n) (time : Nat) : c.set time n = { c with
      cycleTimeout := n
      cycleTimeoutId := c.nextId
      nextId := c.nextId + 1
      timers := keptTimers c.cycleTimeoutId c.timers ++ [⟨c.nextId, c.now + c.left time n, c.left time n⟩] } := by
  unfold set
  rw [if_neg hne, if_pos ⟨on, hn⟩]

theorem cycleClock_gsManagerSetCycleTimeout (env : SaverEnv) (n : Int) (s : Saver) :
    (s.gsManagerSetCycleTimeout env n).cycleClock = s.cycleClock.set env.time n := by
  by_cases hsame : s.manager.cycleTimeout = n
  · have hset : s.cycleClock.set env.time n = s.cycleClock := if_pos hsame
    rw [hset, gsManagerSetCycleTimeout, if_neg (not_not_intro hsame)]
  · let v := s.modifyManager fun m => { m with cycleTimeout := n }
    have heq : s.gsManagerSetCycleTimeout env n = if (v.manager.active && decide (0 ≤ n)) = true then
        v.removeCycleTimer.addCycleTimer (s.cycleClock.left env.time n) else v := if_pos hsame
    have hset : s.cycleClock.set env.time n = _ := if_neg hsame
    rw [hset, heq]
    by_cases hon : s.manager.active = true ∧ 0 ≤ n
    · have hrun : (v.manager.active && decide (0 ≤ n)) = true := by
        rw [Bool.and_eq_true, decide_eq_true_eq]
        exact hon
      rw [if_pos hrun, removeCycleTimer_eq]
      exact (if_pos hon).symm
    · have hrun : ¬ (v.manager.active && decide (0 ≤ n)) = true := by
        rw [Bool.and_eq_true, decide_eq_true_eq]
        exact hon
      rw [if_neg hrun]
      exact (if_neg hon).symm

theorem releaseGrabTimeout_gsManagerSetCycleTimeout (env : SaverEnv) (n : Int) (s : Saver) :
    (s.gsManagerSetCycleTimeout env n).loop.releaseGrabTimeout = s.loop.releaseGrabTimeout := by
  simp only [gsManagerSetCycleTimeout]
  split
  · split
    · rw [removeCycleTimer_eq]
      rfl
    · rfl
  · rfl

theorem loop_forWindows {g : GSWindow → GSWindow} (twice : ∀ win, g (g win) = g win) (s : Saver) :
    (s.forWindows fun w s => s.modifyWindow w g).loop = s.loop ∧
    (s.forWindows fun w s => s.modifyWindow w g).manager = s.manager := by
  obtain ⟨hrec, -, -⟩ := modifyWindow_foldl g twice s.manager.windows s
  exact ⟨hrec.loop, hrec.manager⟩

/- Another setting that is handed to the windows. -/
theorem cycleClock_setting {f : GSManager → GSManager} {g : GSWindow → GSWindow}
    (twice : ∀ win, g (g win) = g win) (hf : (s.modifyManager f).cycleClock = s.cycleClock) :
    let t := (s.modifyManager f).forWindows fun w s => s.modifyWindow w g
    t.cycleClock = s.cycleClock ∧ t.loop.releaseGrabTimeout = s.loop.releaseGrabTimeout := by
  obtain ⟨hloop, hmanager⟩ := loop_forWindows twice (s.modifyManager f)
  refine ⟨?_, congrArg MainLoop.releaseGrabTimeout hloop⟩
  rw [← hf, cycleClock, hloop, hmanager]
  rfl

theorem cycleClock_gsManagerSetStatusMessage (c : Option String) (s : Saver) :
    (s.gsManagerSetStatusMessage c).cycleClock = s.cycleClock ∧
    (s.gsManagerSetStatusMessage c).loop.releaseGrabTimeout = s.loop.releaseGrabTimeout :=
  cycleClock_setting (fun _ => rfl) rfl

/- Of the settings only that of the cycle reaches its timer. -/
theorem cycleClock_managerSettings (env : Env) (q : GSPrefs) (s : Saver) :
    (Screensaver.managerSettings env q s).cycleClock = s.cycleClock.set env.time q.cycle ∧
    (Screensaver.managerSettings env q s).loop.releaseGrabTimeout = s.loop.releaseGrabTimeout := by
  let Same (v : Saver) : Prop :=
    v.cycleClock = s.cycleClock ∧ v.loop.releaseGrabTimeout = s.loop.releaseGrabTimeout
  have hset : ∀ {v : Saver} (f : GSManager → GSManager) (g : GSWindow → GSWindow), (∀ win, g (g win) = g win) →
      (v.modifyManager f).cycleClock = v.cycleClock → Same v →
      Same ((v.modifyManager f).forWindows fun w s => s.modifyWindow w g) := by
    intro v f g twice hf hv
    obtain ⟨hclock, hrelease⟩ := cycleClock_setting twice hf
    exact ⟨hclock.trans hv.1, hrelease.trans hv.2⟩
  have hchoose : ∀ {c : Prop} [Decidable c] {v v' : Saver}, Same v → Same v' → Same (if c then v' else v) := by
    intro c _ v v' hv hv'
    split
    · exact hv'
    · exact hv
  have h0 : Same s := ⟨rfl, rfl⟩
  have h1 : Same (s.gsManagerSetLogoutEnabled q.logoutEnabled) :=
    hchoose h0 (hset _ (fun win => { win with logoutEnabled := q.logoutEnabled }) (fun _ => rfl) rfl h0)
  generalize hv1 : s.gsManagerSetLogoutEnabled q.logoutEnabled = v1 at h1
  have h2 : Same (v1.gsManagerSetUserSwitchEnabled (q.userSwitchEnabled && !q.userSwitchDisabled)) :=
    hchoose h1 (hset _ (fun win => { win with userSwitchEnabled := q.userSwitchEnabled && !q.userSwitchDisabled })
      (fun _ => rfl) rfl h1)
  generalize hv2 : v1.gsManagerSetUserSwitchEnabled (q.userSwitchEnabled && !q.userSwitchDisabled) = v2 at h2
  have h3 : Same (v2.gsManagerSetKeyboardEnabled q.keyboardEnabled) :=
    hchoose h2 (hset _ (fun win => { win with keyboardEnabled := q.keyboardEnabled }) (fun _ => rfl) rfl h2)
  generalize hv3 : v2.gsManagerSetKeyboardEnabled q.keyboardEnabled = v3 at h3
  have h4 : Same (v3.gsManagerSetLogoutTimeout q.logoutTimeout) :=
    hchoose h3 (hset _ (fun win => { win with logoutTimeout := q.logoutTimeout.toNat }) (fun _ => rfl) rfl h3)
  generalize hv4 : v3.gsManagerSetLogoutTimeout q.logoutTimeout = v4 at h4
  have h5 : Same (v4.gsManagerSetLogoutCommand q.logoutCommand) :=
    hset _ (fun win => { win with logoutCommand := q.logoutCommand }) (fun _ => rfl) rfl h4
  generalize hv5 : v4.gsManagerSetLogoutCommand q.logoutCommand = v5 at h5
  have h6 : Same (v5.gsManagerSetKeyboardCommand q.keyboardCommand) :=
    hset _ (fun win => { win with keyboardCommand := q.keyboardCommand }) (fun _ => rfl) rfl h5
  have heq : Screensaver.managerSettings env q s = (((v5.gsManagerSetKeyboardCommand q.keyboardCommand
      ).gsManagerSetCycleTimeout env.toSaverEnv q.cycle).gsManagerSetMode q.mode).gsManagerSetThemes q.themes := by
    rw [← hv5, ← hv4, ← hv3, ← hv2, ← hv1]
    rfl
  generalize v5.gsManagerSetKeyboardCommand q.keyboardCommand = v6 at h6 heq
  rw [heq, ← h6.1, ← h6.2, ← cycleClock_gsManagerSetCycleTimeout,
    ← releaseGrabTimeout_gsManagerSetCycleTimeout env.toSaverEnv q.cycle v6]
  exact ⟨rfl, rfl⟩

/-! ### The lock -/

/-- The lock of the manager and of its windows; nothing else. -/
structure Relocked (b : Bool) (s t : Saver) : Prop where
  manager : t.manager = { s.manager with lockActive := b }
  windows : ∀ v, ∃ l : Bool, t.windows v = (s.windows v).map fun win => { win with lockEnabled := l }
  loop : t.loop = s.loop
  nextWindow : t.nextWindow = s.nextWindow
  display : t.display = s.display
  activation : t.activation = s.activation
  intact : s.Intact → t.Intact

theorem relocked_gsManagerSetLockActive (b : Bool) (hh : s.Housed) :
    s.gsManagerSetLockActive b = s ∧ s.manager.lockActive = b ∨ Relocked b s (s.gsManagerSetLockActive b) := by
  by_cases hb : s.manager.lockActive = b
  · exact .inl ⟨by simp [gsManagerSetLockActive, hb], hb⟩
  · let v := s.modifyManager fun m => { m with lockActive := b }
    have heq : s.gsManagerSetLockActive b = v.forWindows fun w s => s.gsWindowSetLockEnabled w b := by
      simp only [gsManagerSetLockActive]
      rw [if_pos hb]
    obtain ⟨hrec, hwin, hused⟩ := modifyWindow_foldl (fun win => { win with lockEnabled := b }) (fun _ => rfl)
      v.manager.windows v
    have hwin' : ∀ x, ∃ l : Bool, (v.forWindows fun w s => s.gsWindowSetLockEnabled w b).windows x =
        (s.windows x).map fun win => { win with lockEnabled := l } := by
      intro x
      rw [show (v.forWindows fun w s => s.gsWindowSetLockEnabled w b).windows x = _ from hwin x]
      split
      · exact ⟨b, rfl⟩
      · cases hx : s.windows x with
        | none => exact ⟨b, hx⟩
        | some win => exact ⟨win.lockEnabled, hx⟩
    rw [heq]
    refine .inr ⟨hrec.manager, hwin', hrec.loop, hrec.nextWindow, hrec.display, hrec.activation, fun h => ?_⟩
    have hlive : ∀ x, (v.forWindows fun w s => s.gsWindowSetLockEnabled w b).Live x ↔ s.Live x := by
      intro x
      obtain ⟨l, hx⟩ := hwin' x
      rw [Live, hx, Option.isSome_map, Live]
    have htied : ∀ {q : List WindowSource} {id : GSWindow → SourceId},
        (∀ (win : GSWindow) (l : Bool), id { win with lockEnabled := l } = id win) → Tied q id s →
        Tied q id (v.forWindows fun w s => s.gsWindowSetLockEnabled w b) := by
      intro q id hid ht x hx
      obtain ⟨h0, win, hw, hwid⟩ := ht x hx
      obtain ⟨l, hl⟩ := hwin' x.window
      exact ⟨h0, { win with lockEnabled := l }, by rw [hl, hw]; rfl, (hid win l).trans hwid⟩
    have hloop : (v.forWindows fun w s => s.gsWindowSetLockEnabled w b).loop = s.loop := hrec.loop
    refine ⟨(hused fun w hw => (hh.listed w).1 hw).trans h.used, fun x hx => (hlive _).2 (h.emit x (hloop ▸ hx)),
      fun x hx => (hlive _).2 (h.shaking x (hloop ▸ hx)), ?_, ?_, hloop ▸ h.pos⟩
    · rw [hloop]
      exact htied (fun _ _ => rfl) h.keyboard
    · rw [hloop]
      exact htied (fun _ _ => rfl) h.infoBar

/-- Only the lock, its settings and its timer may be different. -/
structure Locking (s t : Saver) : Prop where
  manager : t.manager.lockless = s.manager.lockless
  windows : ∀ v, ∃ l : Bool, t.windows v = (s.windows v).map fun win => { win with lockEnabled := l }
  nextWindow : t.nextWindow = s.nextWindow
  display : t.display = s.display
  activation : t.activation = s.activation
  now : t.loop.now = s.loop.now
  cycleTimers : t.loop.cycleTimeout = s.loop.cycleTimeout
  releaseTimers : t.loop.releaseGrabTimeout = s.loop.releaseGrabTimeout
  intact : s.Intact → t.Intact

theorem Locking.of_windows (manager : t.manager.lockless = s.manager.lockless) (windows : t.windows = s.windows)
    (nextWindow : t.nextWindow = s.nextWindow) (display : t.display = s.display)
    (activation : t.activation = s.activation) (now : t.loop.now = s.loop.now)
    (cycleTimers : t.loop.cycleTimeout = s.loop.cycleTimeout)
    (releaseTimers : t.loop.releaseGrabTimeout = s.loop.releaseGrabTimeout)
    (intact : s.Intact → t.Intact) : Locking s t := by
  refine ⟨manager, fun v => ?_, nextWindow, display, activation, now, cycleTimers, releaseTimers, intact⟩
  rw [windows]
  cases hv : s.windows v with
  | none => exact ⟨true, rfl⟩
  | some win => exact ⟨win.lockEnabled, rfl⟩

theorem Locking.refl : Locking s s := .of_windows rfl rfl rfl rfl rfl rfl rfl rfl id

theorem Locking.trans (h : Locking s t) (h' : Locking t u) : Locking s u where
  manager := h'.manager.trans h.manager
  windows v := by
    obtain ⟨l, hl⟩ := h.windows v
    obtain ⟨l', hl'⟩ := h'.windows v
    refine ⟨l', ?_⟩
    rw [hl', hl, Option.map_map]
    rfl
  nextWindow := h'.nextWindow.trans h.nextWindow
  display := h'.display.trans h.display
  activation := h'.activation.trans h.activation
  now := h'.now.trans h.now
  cycleTimers := h'.cycleTimers.trans h.cycleTimers
  releaseTimers := h'.releaseTimers.trans h.releaseTimers
  intact := h'.intact ∘ h.intact

theorem Locking.live (h : Locking s t) (w : WindowId) : t.Live w ↔ s.Live w := by
  obtain ⟨l, hl⟩ := h.windows w
  rw [Live, hl, Option.isSome_map, Live]

theorem Locking.listed (h : Locking s t) : t.manager.windows = s.manager.windows := by
  have hm : t.manager.lockless.windows = s.manager.lockless.windows := by rw [h.manager]
  exact hm

theorem Locking.active (h : Locking s t) : t.manager.active = s.manager.active := by
  have hm : t.manager.lockless.active = s.manager.lockless.active := by rw [h.manager]
  exact hm

theorem Locking.window (h : Locking s t) {w : WindowId} {win' : GSWindow} (hw : t.windows w = some win') :
    ∃ win lockEnabled, s.windows w = some win ∧ win' = { win with lockEnabled := lockEnabled } := by
  obtain ⟨l, hl⟩ := h.windows w
  rw [hl] at hw
  obtain ⟨win, hs, rfl⟩ := Option.map_eq_some_iff.1 hw
  exact ⟨win, l, hs, rfl⟩

theorem Locking.housed (h : Locking s t) (hh : s.Housed) : t.Housed where
  listed w := by rw [h.listed, h.live]; exact hh.listed w
  nodup := by rw [h.listed]; exact hh.nodup
  bound w hw := by rw [h.nextWindow]; exact hh.bound w ((h.live w).1 hw)

theorem locking_manager {f : GSManager → GSManager} (hf : (f s.manager).lockless = s.manager.lockless) :
    Locking s (s.modifyManager f) := .of_windows hf rfl rfl rfl rfl rfl rfl rfl fun h => { h with }

theorem locking_gsManagerSetLockActive (b : Bool) (hh : s.Housed) : Locking s (s.gsManagerSetLockActive b) := by
  rcases relocked_gsManagerSetLockActive b hh with ⟨hsame, -⟩ | h
  · rw [hsame]
    exact .refl
  · refine ⟨?_, h.windows, h.nextWindow, h.display, h.activation, by rw [h.loop], by rw [h.loop], by rw [h.loop],
      h.intact⟩
    rw [h.manager]
    rfl

theorem locking_activateLockTimeout (hh : s.Housed) : Locking s s.activateLockTimeout := by
  simp only [activateLockTimeout]
  split
  · exact (locking_gsManagerSetLockActive true hh).trans (locking_manager rfl)
  · exact locking_manager rfl

theorem locking_removeLockTimer (s : Saver) : Locking s s.removeLockTimer := by
  rw [removeLockTimer_eq]
  exact .of_windows rfl rfl rfl rfl rfl rfl rfl rfl fun h => { h with }

theorem locking_addLockTimer (s : Saver) (timeout : Nat) : Locking s (s.addLockTimer timeout) := by
  refine .of_windows rfl rfl rfl rfl rfl rfl rfl rfl fun h => ?_
  have hloop := h.modifyLoop (f := fun l => { l with
      nextId := l.nextId + 1
      activateLockTimeout := l.activateLockTimeout ++ [s.loop.timer timeout] })
    (fun x hx => .inl hx) (fun x hx => .inl hx) (fun x hx => hx) (fun x hx => hx) (Nat.le_succ _)
  exact { hloop with }

theorem locking_gsManagerSetLockTimeout (env : SaverEnv) (n : Int) (hh : s.Housed) :
    Locking s (s.gsManagerSetLockTimeout env n) := by
  simp only [gsManagerSetLockTimeout]
  split
  · have hset : Locking s (s.modifyManager fun m => { m with lockTimeout := n }) := locking_manager rfl
    have hdrop := locking_removeLockTimer (s.modifyManager fun m => { m with lockTimeout := n })
    split
    · split
      · have hhouse := hdrop.housed (hset.housed hh)
        exact (hset.trans hdrop).trans (locking_activateLockTimeout hhouse)
      · exact (hset.trans hdrop).trans (locking_addLockTimer _ _)
    · exact hset
  · exact .refl

/- Both settings of the lock, as a change of the preferences hands them over. -/
theorem locking_lockSettings (env : SaverEnv) (b : Bool) (n : Int) (hh : s.Housed) :
    Locking s ((s.gsManagerSetLockEnabled b).gsManagerSetLockTimeout env n) := by
  have henabled : Locking s (s.gsManagerSetLockEnabled b) := locking_manager rfl
  exact henabled.trans (locking_gsManagerSetLockTimeout env n (henabled.housed hh))

/- The timers of the lock take ids like all others. -/
theorem nextId_gsManagerSetLockTimeout (env : SaverEnv) (n : Int) (s : Saver) :
    s.loop.nextId ≤ (s.gsManagerSetLockTimeout env n).loop.nextId := by
  have hlock : ∀ t : Saver, (t.gsManagerSetLockActive true).loop = t.loop := by
    intro t
    simp only [gsManagerSetLockActive]
    split
    · exact (loop_forWindows (g := fun win => { win with lockEnabled := true }) (fun _ => rfl) _).1
    · rfl
  have htimer : ∀ t : Saver, t.activateLockTimeout.loop = t.loop := by
    intro t
    simp only [activateLockTimeout]
    split
    · exact hlock t
    · rfl
  simp only [gsManagerSetLockTimeout]
  split
  · split
    · split
      · rw [htimer, removeLockTimer_eq]
        exact Nat.le_refl _
      · rw [removeLockTimer_eq]
        exact Nat.le_succ _
    · exact Nat.le_refl _
  · exact Nat.le_refl _

end Saver
end MateScreensaver

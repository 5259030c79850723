import MateScreensaver.Settings

/-!
The settings that the manager hands to its windows: what a window is given when
it is made, and by the setters of gs-manager.c:502..704 afterwards.
-/

namespace MateScreensaver

/- The seven settings; a window never has a negative timeout. -/
structure Handed where
  userSwitchEnabled : Bool
  logoutEnabled : Bool
  keyboardEnabled : Bool
  logoutTimeout : Nat
  logoutCommand : Option String
  keyboardCommand : Option String
  statusMessage : Option String

def GSManager.handed (m : GSManager) : Handed where
  userSwitchEnabled := m.userSwitchEnabled
  logoutEnabled := m.logoutEnabled
  keyboardEnabled := m.keyboardEnabled
  logoutTimeout := m.logoutTimeout.toNat
  logoutCommand := m.logoutCommand
  keyboardCommand := m.keyboardCommand
  statusMessage := m.statusMessage

def GSWindow.handed (win : GSWindow) : Handed where
  userSwitchEnabled := win.userSwitchEnabled
  logoutEnabled := win.logoutEnabled
  keyboardEnabled := win.keyboardEnabled
  logoutTimeout := win.logoutTimeout
  logoutCommand := win.logoutCommand
  keyboardCommand := win.keyboardCommand
  statusMessage := win.statusMessage

namespace Saver

variable {p : Prop} {env : SaverEnv} {s t u : Saver} {w : WindowId}

/-- Every window there is has the settings of the manager. -/
def Mirrored (s : Saver) : Prop := ∀ w win, s.windows w = some win → win.handed = s.manager.handed

/-- No setting changes, and a window is an old one or has just been made. -/
structure HandsOn (s t : Saver) : Prop where
  manager : t.manager.handed = s.manager.handed
  windows : ∀ w win, t.windows w = some win → win.handed = s.manager.handed ∨
    ∃ old, s.windows w = some old ∧ win.handed = old.handed

theorem HandsOn.refl : HandsOn s s := ⟨rfl, fun _ win h => .inr ⟨win, h, rfl⟩⟩

theorem HandsOn.trans (h : HandsOn s t) (h' : HandsOn t u) : HandsOn s u where
  manager := h'.manager.trans h.manager
  windows w win hw := by
    rcases h'.windows w win hw with hnew | ⟨old, hold, heq⟩
    · exact .inl (hnew.trans h.manager)
    · rcases h.windows w old hold with hnew | ⟨older, holder, heq'⟩
      · exact .inl (heq.trans hnew)
      · exact .inr ⟨older, holder, heq.trans heq'⟩

theorem HandsOn.mirrored (h : HandsOn s t) (hm : s.Mirrored) : t.Mirrored := by
  intro w win hw
  rw [h.manager]
  rcases h.windows w win hw with hnew | ⟨old, hold, heq⟩
  · exact hnew
  · exact heq.trans (hm w old hold)

/- The windows are left alone. -/
theorem handsOn_of (hm : t.manager.handed = s.manager.handed) (hw : t.windows = s.windows) : HandsOn s t :=
  ⟨hm, fun _ win h => .inr ⟨win, hw ▸ h, rfl⟩⟩

/-! ### Moves -/

theorem handsOn_still (h : Still p s t) : HandsOn s t := by
  refine ⟨congrArg GSManager.handed h.manager, fun w win hw => .inr ?_⟩
  have hface := h.face w
  rw [hw] at hface
  obtain ⟨old, hold, heq⟩ := Option.map_eq_some_iff.1 hface.symm
  have hhanded : old.face.handed = win.face.handed := congrArg GSWindow.handed heq
  exact ⟨old, hold, hhanded.symm⟩

theorem handsOn_raised (h : Raised w s t) : HandsOn s t := by
  refine ⟨by rw [h.manager]; rfl, fun v win hv => ?_⟩
  obtain ⟨old, up, sensitive, hold, rfl⟩ := h.window hv
  exact .inr ⟨old, hold, rfl⟩

theorem handsOn_lowered (h : Lowered env w s t) : HandsOn s t := by
  obtain ⟨start, -, hm⟩ := h.manager
  refine ⟨by rw [hm]; rfl, fun v win hv => ?_⟩
  obtain ⟨old, up, sensitive, hold, rfl⟩ := h.window hv
  exact .inr ⟨old, hold, rfl⟩

theorem handsOn_managerShowWindow (env : SaverEnv) (w : WindowId) (s : Saver) :
    HandsOn s (s.managerShowWindow env w) := by
  simp only [managerShowWindow, managerAddJobForWindow, modifyManager, removeLockTimer_eq,
    removeCycleTimer_eq, addLockTimer, addCycleTimer, modifyLoop, MainLoop.timer]
  refine handsOn_of ?_ ?_
  · split
    · split <;> rfl
    · split <;> rfl
  · split
    · split <;> rfl
    · split <;> rfl

theorem handsOn_modifyWindow {f : GSWindow → GSWindow} (hf : ∀ win, (f win).handed = win.handed) :
    HandsOn s (s.modifyWindow w f) := by
  refine ⟨by rw [modifyWindow_manager], fun v win hv => ?_⟩
  rw [modifyWindow_map] at hv
  obtain ⟨old, hold, rfl⟩ := Option.map_eq_some_iff.1 hv
  refine .inr ⟨old, hold, ?_⟩
  split
  · exact hf old
  · rfl

theorem handsOn_gtkWidgetShow (env : SaverEnv) (w : WindowId) (s : Saver) : HandsOn s (s.gtkWidgetShow env w) := by
  simp only [gtkWidgetShow]
  split
  · exact .refl
  · have hshown : HandsOn s (s.modifyWindow w fun win => { win with visible := true }) :=
      handsOn_modifyWindow fun _ => rfl
    exact hshown.trans (handsOn_managerShowWindow env w _)

theorem Calm.handsOn (h : Calm p env s t) : HandsOn s t := by
  cases h with
  | still h => exact handsOn_still h
  | raise w on down off live => exact handsOn_raised (raised_windowSetDialogUp env off live)
  | lower w up => exact handsOn_lowered (lowered_windowSetDialogUp env up)
  | jobs f hf => exact handsOn_of rfl rfl
  | obscure w b live => exact handsOn_modifyWindow fun _ => rfl
  | appear w on live hidden => exact handsOn_gtkWidgetShow env w s

theorem Calms.handsOn (h : Calms p env s t) : HandsOn s t := by
  induction h with
  | refl => exact .refl
  | tail _ h ih => exact ih.trans h.handsOn

theorem handsOn_forgotten (w : WindowId) (s : Saver) : HandsOn s (s.forgotten w) := by
  refine ⟨rfl, fun v win hv => ?_⟩
  have hif : (if v = w then none else s.windows v) = some win := hv
  split at hif
  · cases hif
  · exact .inr ⟨win, hif, rfl⟩

theorem handsOn_withWindow (m : MonitorId) (s : Saver) : HandsOn s (s.withWindow m) := by
  refine ⟨rfl, fun v win hv => ?_⟩
  have hif : (if v = s.nextWindow then some (gsWindowNew m s.manager) else s.windows v) = some win := hv
  split at hif
  · cases hif
    exact .inl rfl
  · exact .inr ⟨win, hif, rfl⟩

theorem Act.handsOn (h : Act p env s t) : HandsOn s t := by
  cases h with
  | calm h => exact h.handsOn
  | plug d => exact handsOn_of rfl rfl
  | create m down => exact handsOn_withWindow m s
  | turnOn off => exact handsOn_of rfl rfl
  | dropJob w => exact handsOn_of rfl rfl
  | gone w down silent unused => exact (handsOn_forgotten w s).trans (handsOn_of rfl rfl)

theorem Acts.handsOn (h : Acts p env s t) : HandsOn s t := by
  induction h with
  | refl => exact .refl
  | tail _ h ih => exact ih.trans h.handsOn

theorem Locking.handsOn (h : Locking s t) : HandsOn s t := by
  have hm : t.manager.lockless.handed = s.manager.lockless.handed := congrArg GSManager.handed h.manager
  refine ⟨hm, fun w win hw => ?_⟩
  obtain ⟨old, lockEnabled, hold, rfl⟩ := h.window hw
  exact .inr ⟨old, hold, rfl⟩

/-! ### The end of an activation -/

theorem handsOn_gsWindowDestroy (env : SaverEnv) (w : WindowId) (s : Saver) :
    HandsOn s (s.gsWindowDestroy env w) := by
  have hdown : Calms False env s (s.popdownDialog env w) := calms_popdownDialog env fun h => h.elim
  rw [gsWindowDestroy_eq]
  exact hdown.handsOn.trans (handsOn_forgotten w _)

theorem handsOn_destroyAll (env : SaverEnv) (l : List WindowId) (s : Saver) :
    HandsOn s (l.foldl (fun s w => s.gsWindowDestroy env w) s) := by
  induction l generalizing s with
  | nil => exact .refl
  | cons w l ih => exact (handsOn_gsWindowDestroy env w s).trans (ih _)

theorem handsOn_silenced (s : Saver) : HandsOn s s.silenced := by
  refine handsOn_of ?_ (silenced_rest s).1
  rw [silenced_manager]
  rfl

theorem handsOn_gsManagerDeactivate (env : SaverEnv) (s : Saver) : HandsOn s (s.gsManagerDeactivate env).2 := by
  cases on : s.manager.active
  · have hsame : (s.gsManagerDeactivate env).2 = s := by simp [gsManagerDeactivate, on]
    rw [hsame]
    exact .refl
  · have hdestroyed : HandsOn s (s.silenced.gsManagerDestroyWindows env) := by
      by_cases h0 : s.manager.windows = []
      · rw [silenced_destroyNone env h0]
        exact handsOn_silenced s
      · rw [silenced_destroyAll env h0]
        have hall := (handsOn_of rfl rfl : HandsOn s.silenced s.silenced.unplugged).trans
          (handsOn_destroyAll env s.manager.windows s.silenced.unplugged)
        exact ((handsOn_silenced s).trans hall).trans (handsOn_of rfl rfl)
    rw [gsManagerDeactivate_eq env on]
    exact hdestroyed.trans (handsOn_of rfl rfl)

/-! ### The setters -/

/-- A setter changes the same setting of the manager and of each window. -/
theorem mirrored_setting {f : GSManager → GSManager} {g : GSWindow → GSWindow} (set : Handed → Handed)
    (hh : s.Housed) (hm : s.Mirrored) (twice : ∀ win, g (g win) = g win)
    (hlist : (f s.manager).windows = s.manager.windows) (hf : (f s.manager).handed = set s.manager.handed)
    (hg : ∀ win, (g win).handed = set win.handed) :
    ((s.modifyManager f).forWindows fun w s => s.modifyWindow w g).Mirrored := by
  obtain ⟨hrec, hfold, -⟩ := modifyWindow_foldl g twice (s.modifyManager f).manager.windows (s.modifyManager f)
  intro w win hw
  have hmanager : ((s.modifyManager f).forWindows fun w s => s.modifyWindow w g).manager = f s.manager :=
    hrec.manager
  rw [hmanager, hf]
  have hwin : (if w ∈ (f s.manager).windows then (s.windows w).map g else s.windows w) = some win :=
    (hfold w).symm.trans hw
  split at hwin
  · obtain ⟨old, hold, rfl⟩ := Option.map_eq_some_iff.1 hwin
    rw [hg, hm w old hold]
  · next hnot =>
    have hlive : s.Live w := by rw [Live, hwin]; rfl
    exact absurd ((hh.listed w).2 hlive) (hlist ▸ hnot)

theorem mirrored_gsManagerSetLogoutEnabled (b : Bool) (hh : s.Housed) (hm : s.Mirrored) :
    (s.gsManagerSetLogoutEnabled b).Mirrored := by
  simp only [gsManagerSetLogoutEnabled]
  split
  · exact mirrored_setting (fun x => { x with logoutEnabled := b }) hh hm (fun _ => rfl) rfl rfl fun _ => rfl
  · exact hm

theorem mirrored_gsManagerSetKeyboardEnabled (b : Bool) (hh : s.Housed) (hm : s.Mirrored) :
    (s.gsManagerSetKeyboardEnabled b).Mirrored := by
  simp only [gsManagerSetKeyboardEnabled]
  split
  · exact mirrored_setting (fun x => { x with keyboardEnabled := b }) hh hm (fun _ => rfl) rfl rfl
      fun _ => rfl
  · exact hm

theorem mirrored_gsManagerSetUserSwitchEnabled (b : Bool) (hh : s.Housed) (hm : s.Mirrored) :
    (s.gsManagerSetUserSwitchEnabled b).Mirrored := by
  simp only [gsManagerSetUserSwitchEnabled]
  split
  · exact mirrored_setting (fun x => { x with userSwitchEnabled := b }) hh hm (fun _ => rfl) rfl rfl
      fun _ => rfl
  · exact hm

theorem mirrored_gsManagerSetLogoutTimeout (n : Int) (hh : s.Housed) (hm : s.Mirrored) :
    (s.gsManagerSetLogoutTimeout n).Mirrored := by
  simp only [gsManagerSetLogoutTimeout]
  split
  · exact mirrored_setting (fun x => { x with logoutTimeout := n.toNat }) hh hm (fun _ => rfl) rfl rfl
      fun _ => rfl
  · exact hm

theorem mirrored_gsManagerSetLogoutCommand (c : Option String) (hh : s.Housed) (hm : s.Mirrored) :
    (s.gsManagerSetLogoutCommand c).Mirrored :=
  mirrored_setting (fun x => { x with logoutCommand := c }) hh hm (fun _ => rfl) rfl rfl fun _ => rfl

theorem mirrored_gsManagerSetKeyboardCommand (c : Option String) (hh : s.Housed) (hm : s.Mirrored) :
    (s.gsManagerSetKeyboardCommand c).Mirrored :=
  mirrored_setting (fun x => { x with keyboardCommand := c }) hh hm (fun _ => rfl) rfl rfl fun _ => rfl

theorem mirrored_gsManagerSetStatusMessage (c : Option String) (hh : s.Housed) (hm : s.Mirrored) :
    (s.gsManagerSetStatusMessage c).Mirrored :=
  mirrored_setting (fun x => { x with statusMessage := c }) hh hm (fun _ => rfl) rfl rfl fun _ => rfl

theorem handsOn_gsManagerSetCycleTimeout (env : SaverEnv) (n : Int) (s : Saver) :
    HandsOn s (s.gsManagerSetCycleTimeout env n) := by
  simp only [gsManagerSetCycleTimeout, removeCycleTimer_eq, addCycleTimer, modifyManager, modifyLoop]
  refine handsOn_of ?_ ?_
  · split
    · split <;> rfl
    · rfl
  · split
    · split <;> rfl
    · rfl

/- The settings one after the other, each with the windows still those of the manager. -/
theorem mirrored_managerSettings (env : Env) (q : GSPrefs) (hh : s.Housed) (hm : s.Mirrored) :
    (Screensaver.managerSettings env q s).Mirrored := by
  have hstep : ∀ {v : Saver} (f : Saver → Saver), (∀ v : Saver, v.Housed → Tuned True v (f v)) →
      (∀ v : Saver, v.Housed → v.Mirrored → (f v).Mirrored) → v.Housed ∧ v.Mirrored →
      (f v).Housed ∧ (f v).Mirrored :=
    fun f hf hg h => ⟨h.1.steady (hf _ h.1).steady, hg _ h.1 h.2⟩
  have h1 := hstep (.gsManagerSetLogoutEnabled q.logoutEnabled) (fun _ h => tuned_gsManagerSetLogoutEnabled _ h)
    (fun _ h hm => mirrored_gsManagerSetLogoutEnabled _ h hm) ⟨hh, hm⟩
  have h2 := hstep (.gsManagerSetUserSwitchEnabled (q.userSwitchEnabled && !q.userSwitchDisabled))
    (fun _ h => tuned_gsManagerSetUserSwitchEnabled _ h)
    (fun _ h hm => mirrored_gsManagerSetUserSwitchEnabled _ h hm) h1
  have h3 := hstep (.gsManagerSetKeyboardEnabled q.keyboardEnabled)
    (fun _ h => tuned_gsManagerSetKeyboardEnabled _ h)
    (fun _ h hm => mirrored_gsManagerSetKeyboardEnabled _ h hm) h2
  have h4 := hstep (.gsManagerSetLogoutTimeout q.logoutTimeout) (fun _ h => tuned_gsManagerSetLogoutTimeout _ h)
    (fun _ h hm => mirrored_gsManagerSetLogoutTimeout _ h hm) h3
  have h5 := hstep (.gsManagerSetLogoutCommand q.logoutCommand) (fun _ h => tuned_gsManagerSetLogoutCommand _ h)
    (fun _ h hm => mirrored_gsManagerSetLogoutCommand _ h hm) h4
  have h6 := hstep (.gsManagerSetKeyboardCommand q.keyboardCommand)
    (fun _ h => tuned_gsManagerSetKeyboardCommand _ h)
    (fun _ h hm => mirrored_gsManagerSetKeyboardCommand _ h hm) h5
  have h7 := hstep (.gsManagerSetCycleTimeout env.toSaverEnv q.cycle)
    (fun v _ => tuned_gsManagerSetCycleTimeout env.toSaverEnv v q.cycle)
    (fun v _ hm => (handsOn_gsManagerSetCycleTimeout env.toSaverEnv q.cycle v).mirrored hm) h6
  have hlast : ∀ v : Saver, HandsOn v ((v.gsManagerSetMode q.mode).gsManagerSetThemes q.themes) :=
    fun _ => handsOn_of rfl rfl
  exact (hlast _).mirrored h7.2

end Saver
end MateScreensaver

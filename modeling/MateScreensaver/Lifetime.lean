import MateScreensaver.Hotplug

/-!
The events that make and end windows: a monitor that comes or goes, the start of
an activation, and its end.
-/

namespace MateScreensaver
namespace Saver
open Screensaver (repeated monitorAdded monitorRemoved)

variable {p : Prop} {env : SaverEnv} {s t u : Saver} {w : WindowId}

/-! ### Monitors -/

theorem removed_spec (env : SaverEnv) (m : MonitorId) (hh : s.Housed) :
    Shrunk (fun w => w ∈ s.manager.windows ∧ s.monitorOf w = some m) s (s.onDisplayMonitorRemoved env m) ∧
    ((p → ∀ w, s.monitorOf w = some m → s.Unused w) → Acts p env s (s.onDisplayMonitorRemoved env m)) := by
  obtain ⟨hshrunk, hacts⟩ := removeMonitor_foldl (p := p) env m s.manager.windows
    (fun w hw => (hh.listed w).1 hw) hh.nodup
  exact ⟨hshrunk, fun hunused => hacts fun hp w _ hm => hunused hp w hm⟩

theorem acts_repeatedAdded (env : SaverEnv) (m : MonitorId) (n : Nat) (hs : s.view.Sound) (hh : s.Housed) :
    Acts p env s (repeated (.onDisplayMonitorAdded env m) n s) ∧
    Plugged (· ++ List.replicate n m) s (repeated (.onDisplayMonitorAdded env m) n s) := by
  induction n generalizing s with
  | zero => exact ⟨.refl, rfl, (List.append_nil _).symm, rfl⟩
  | succ n ih =>
    have hone : Acts p env s (s.onDisplayMonitorAdded env m) := acts_onDisplayMonitorAdded env m hs hh
    have hplug := plugged_onDisplayMonitorAdded env m hs hh
    have hs' : (s.onDisplayMonitorAdded env m).view.Sound :=
      (keeps_onDisplayMonitorAdded (r := True) env s m hs).sound
    obtain ⟨hacts, hrest⟩ := ih hs' (hone.housed hh)
    refine ⟨hone.trans hacts, hrest.active.trans hplug.active, ?_, hrest.display.trans hplug.display⟩
    show (repeated (.onDisplayMonitorAdded env m) n (s.onDisplayMonitorAdded env m)).roster = _
    rw [hrest.roster, hplug.roster, List.append_assoc]
    rfl

/- After the first handler has run there is nothing left to remove. -/
theorem acts_repeatedRemoved (env : SaverEnv) (m : MonitorId) (n : Nat) (hh : s.Housed)
    (unused : p → ∀ w, s.monitorOf w = some m → s.Unused w) :
    Acts p env s (repeated (.onDisplayMonitorRemoved env m) n s) ∧
    Plugged (fun l => if n = 0 then l else l.filter fun x => x ≠ m) s
      (repeated (.onDisplayMonitorRemoved env m) n s) := by
  induction n generalizing s with
  | zero => exact ⟨.refl, rfl, rfl, rfl⟩
  | succ n ih =>
    obtain ⟨hshrunk, hacts⟩ := removed_spec (p := p) env m hh
    have hone := hacts unused
    have hhu := hone.housed hh
    have hnone : ∀ w, (s.onDisplayMonitorRemoved env m).monitorOf w ≠ some m := by
      intro w hw
      by_cases hgone : w ∈ s.manager.windows ∧ s.monitorOf w = some m
      · have hlost := hshrunk.lost w (decide_eq_true hgone)
        rw [Saver.monitorOf, hlost] at hw
        cases hw
      · have hsame := hshrunk.monitorOf (decide_eq_false hgone)
        rw [hsame] at hw
        have hlive : s.Live w := (monitorOf_live s w).1 (by rw [hw]; rfl)
        exact hgone ⟨(hh.listed w).2 hlive, hw⟩
    obtain ⟨hacts', hrest⟩ := ih hhu fun _ w hw => absurd hw (hnone w)
    refine ⟨hone.trans hacts', hrest.active.trans hshrunk.active, ?_, hrest.display.trans hshrunk.display⟩
    show (repeated (.onDisplayMonitorRemoved env m) n (s.onDisplayMonitorRemoved env m)).roster = _
    rw [hrest.roster, hh.roster_removed hshrunk, if_neg (Nat.succ_ne_zero n)]
    split
    · rfl
    · simp [List.filter_filter]

theorem monitorAdded_spec (env : Env) (m : MonitorId) (hs : s.view.Sound) (hh : s.Housed) :
    Acts p env.toSaverEnv s (monitorAdded env m s) ∧
    (monitorAdded env m s).manager.active = s.manager.active ∧
    (monitorAdded env m s).roster = s.roster ++ List.replicate s.display.monitorAdded m ∧
    (monitorAdded env m s).display = { s.display with monitors := s.display.monitors ++ [m] } := by
  let v : Saver := { s with display := { s.display with monitors := s.display.monitors ++ [m] } }
  have hplug : Act p env.toSaverEnv s v := .plug _
  obtain ⟨hacts, hrest⟩ := acts_repeatedAdded (p := p) (s := v) env.toSaverEnv m s.display.monitorAdded hs
    (hplug.housed hh)
  exact ⟨hplug.acts.trans hacts, hrest.active, hrest.roster, hrest.display⟩

theorem monitorRemoved_spec (env : Env) (m : MonitorId) (hh : s.Housed)
    (unused : p → ∀ w, s.monitorOf w = some m → s.Unused w) :
    Acts p env.toSaverEnv s (monitorRemoved env m s) ∧
    (monitorRemoved env m s).manager.active = s.manager.active ∧
    (monitorRemoved env m s).roster =
      (if s.display.monitorRemoved = 0 then s.roster else s.roster.filter fun x => x ≠ m) ∧
    (monitorRemoved env m s).display =
      { s.display with monitors := s.display.monitors.filter fun x => x ≠ m } := by
  let v : Saver := { s with display := { s.display with monitors := s.display.monitors.filter fun x => x ≠ m } }
  have hplug : Act p env.toSaverEnv s v := .plug _
  obtain ⟨hacts, hrest⟩ := acts_repeatedRemoved (p := p) (s := v) env.toSaverEnv m s.display.monitorRemoved
    (hplug.housed hh) unused
  exact ⟨hplug.acts.trans hacts, hrest.active, hrest.roster, hrest.display⟩

/-! ### The start of an activation -/

theorem create_foldl (env : SaverEnv) (l : List MonitorId) (hh : s.Housed) (off : s.manager.active = false) :
    let t := l.foldl (fun s m => s.gsManagerCreateWindowForMonitor env m) s
    Acts p env s t ∧ t.manager.active = false ∧ t.roster = s.roster ++ l ∧ t.display = s.display := by
  induction l generalizing s with
  | nil => exact ⟨.refl, off, (List.append_nil _).symm, rfl⟩
  | cons m l ih =>
    have heq : s.gsManagerCreateWindowForMonitor env m = s.withWindow m :=
      if_neg (fun hon : s.manager.active = true => Bool.false_ne_true (off.symm.trans hon))
    have hone : Act p env s (s.withWindow m) := .create m fun hon => absurd (off.symm.trans hon) Bool.false_ne_true
    obtain ⟨hacts, hoff, hroster, hdisplay⟩ := ih (hh.withWindow m) off
    rw [List.foldl_cons, heq]
    refine ⟨hone.acts.trans hacts, hoff, ?_, hdisplay⟩
    rw [hroster, hh.roster_withWindow, List.append_assoc]
    rfl

theorem gsManagerActivate_refused (off : s.manager.active = false) (hg : env.grabRoot = false) :
    s.gsManagerActivate env = (false, s) := by
  simp [gsManagerActivate, off, GSGrab.grabWindowOnce, hg]

theorem calms_showAll (env : SaverEnv) (l : List WindowId) (on : s.manager.active = true) (hl : ∀ w ∈ l, s.Live w) :
    Calms p env s (l.foldl (fun t w => t.gtkWidgetShow env w) s) := by
  induction l generalizing s with
  | nil => exact .refl
  | cons x l ih =>
    have hone : Calms p env s (s.gtkWidgetShow env x) := calms_gtkWidgetShow env on (hl x List.mem_cons_self)
    exact hone.trans (ih (hone.steady.active.trans on) fun w hw =>
      (hone.steady.live w).2 (hl w (List.mem_cons_of_mem x hw)))

/- The windows are made, the saver is active, and then all of them are shown. -/
theorem gsManagerActivate_split (hh : s.Housed) (off : s.manager.active = false) (hg : env.grabRoot = true) :
    ∃ u, Acts p env s u ∧ u.manager.active = false ∧
      u.roster = (if s.manager.windows = [] then s.display.monitors else s.roster) ∧
      u.display = (if s.manager.windows = [] then
        { s.display with monitorAdded := s.display.monitorAdded + 1, monitorRemoved := s.display.monitorRemoved + 1 }
        else s.display) ∧
      s.gsManagerActivate env = (true, u.turnedOn.forWindows fun w s => s.gtkWidgetShow env w) := by
  let v := s.modifyGrab (.get .root false false)
  let u := if v.manager.windows = [] then v.gsManagerCreateWindows env else v
  have heq : s.gsManagerActivate env = (true, u.turnedOn.forWindows fun w s => s.gtkWidgetShow env w) := by
    simp only [gsManagerActivate, off, GSGrab.grabWindowOnce, hg]
    rfl
  have hgrab : Acts p env s v := (still_modifyGrab _).calms.acts
  by_cases h0 : s.manager.windows = []
  · have hu : u = v.gsManagerCreateWindows env := if_pos h0
    let x : Saver := { v with display := { s.display with
      monitorAdded := s.display.monitorAdded + 1, monitorRemoved := s.display.monitorRemoved + 1 } }
    have hconnect : Act p env v x := .plug _
    have hx : x.Housed := hconnect.housed (hgrab.housed hh)
    obtain ⟨hacts, hoff, hroster, hdisplay⟩ := create_foldl (p := p) (s := x) env s.display.monitors hx off
    have hempty : x.roster = [] := by
      simp only [roster, x, v, modifyGrab, h0, List.map_nil]
    refine ⟨u, ?_, ?_, ?_, ?_, heq⟩
    · rw [hu]
      exact (hgrab.trans hconnect.acts).trans hacts
    · rw [hu]
      exact hoff
    · rw [if_pos h0, hu]
      refine hroster.trans ?_
      rw [hempty]
      rfl
    · rw [if_pos h0, hu]
      exact hdisplay
  · have hu : u = v := if_neg h0
    refine ⟨u, ?_, ?_, ?_, ?_, heq⟩
    · rw [hu]
      exact hgrab
    · rw [hu]
      exact off
    · rw [if_neg h0, hu]
      rfl
    · rw [if_neg h0, hu]
      rfl

theorem gsManagerActivate_acts (hh : s.Housed) (off : s.manager.active = false) (hg : env.grabRoot = true) :
    Acts p env s (s.gsManagerActivate env).2 ∧
    (s.gsManagerActivate env).2.manager.active = true ∧
    (s.gsManagerActivate env).2.roster = (if s.manager.windows = [] then s.display.monitors else s.roster) ∧
    (s.gsManagerActivate env).2.display = if s.manager.windows = [] then
      { s.display with monitorAdded := s.display.monitorAdded + 1, monitorRemoved := s.display.monitorRemoved + 1 }
      else s.display := by
  obtain ⟨u, hacts, hoff, hroster, hdisplay, heq⟩ := gsManagerActivate_split (p := p) hh off hg
  have hon : Act p env u u.turnedOn := .turnOn hoff
  have hhu : u.turnedOn.Housed := hon.housed (hacts.housed hh)
  have hall : Calms p env u.turnedOn (u.turnedOn.forWindows fun w s => s.gtkWidgetShow env w) :=
    calms_showAll env _ rfl fun w hw => (hhu.listed w).1 hw
  rw [heq]
  refine ⟨(hacts.trans hon.acts).trans hall.acts, hall.steady.active, ?_, hall.steady.display.trans hdisplay⟩
  rw [hall.steady.roster]
  exact hroster

/-! ### Its end -/

theorem Calm.noJobs (h : Calm p env s t) (hj : s.manager.jobs = none) : t.manager.jobs = none := by
  cases h with
  | still h => rw [h.manager, hj]
  | raise w on down off live =>
    rw [(raised_windowSetDialogUp env off live).manager]
    simp [hj]
  | lower w up =>
    obtain ⟨start, -, hm⟩ := (lowered_windowSetDialogUp env up).manager
    rw [hm]
    simp [hj]
  | jobs f hf => simp [mapJobs, hj]
  | obscure w b live => rw [(records_modifyWindow s w _).manager, hj]
  | appear w on live hidden =>
    have hm := congrArg GSManager.jobs (appeared_gtkWidgetShow env live hidden).manager
    have hjobs : (s.gtkWidgetShow env w).manager.jobs = s.manager.jobs.map _ := hm
    rw [hjobs, hj]
    rfl

theorem Calms.noJobs (h : Calms p env s t) (hj : s.manager.jobs = none) : t.manager.jobs = none := by
  induction h with
  | refl => exact hj
  | tail _ h ih => exact h.noJobs ih

theorem popdownDialog_noJobs (env : SaverEnv) (w : WindowId) (hj : s.manager.jobs = none) :
    (s.popdownDialog env w).manager.jobs = none :=
  (calms_popdownDialog (p := s.Live w) env id).noJobs hj

/- The dialog has nothing to do with the timers of the manager and of the monitor. -/
theorem popdownDialog_timers (env : SaverEnv) (s : Saver) (w : WindowId) :
    (s.popdownDialog env w).loop.cycleTimeout = s.loop.cycleTimeout ∧
    (s.popdownDialog env w).loop.releaseGrabTimeout = s.loop.releaseGrabTimeout ∧
    (s.popdownDialog env w).manager.cycleTimeout = s.manager.cycleTimeout := by
  have hfinish : Still False s (s.gsWindowDialogFinish w) := still_gsWindowDialogFinish False.elim
  have hloop := windowSetDialogUp_loop env (s.gsWindowDialogFinish w) w
  have hafter : Still False ((s.gsWindowDialogFinish w).windowSetDialogUp env w false) (s.popdownDialog env w) :=
    still_afterDown False.elim
  have hdown : ∀ t : Saver, (t.windowSetDialogUp env w false).manager.cycleTimeout = t.manager.cycleTimeout := by
    intro t
    cases h : (t.window w).dialogUp
    · rw [windowSetDialogUp, if_pos h]
    · obtain ⟨start, -, hm⟩ := (lowered_windowSetDialogUp env h).manager
      rw [hm]
  refine ⟨?_, ?_, ?_⟩
  · rw [hafter.cycleTimers, hloop, hfinish.cycleTimers]
  · rw [hafter.releaseTimers, hloop, hfinish.releaseTimers]
  · rw [hafter.manager, hdown, hfinish.manager]

theorem gsWindowDestroy_eq (env : SaverEnv) (s : Saver) (w : WindowId) :
    s.gsWindowDestroy env w = (s.popdownDialog env w).forgotten w := rfl

/- What the destruction of windows leaves alone. -/
structure Emptied (s t : Saver) : Prop where
  windows : t.manager.windows = s.manager.windows
  active : t.manager.active = s.manager.active
  lockEnabled : t.manager.lockEnabled = s.manager.lockEnabled
  lockTimeout : t.manager.lockTimeout = s.manager.lockTimeout
  cycleTimeout : t.manager.cycleTimeout = s.manager.cycleTimeout
  throttled : t.manager.throttled = s.manager.throttled
  jobs : s.manager.jobs = none → t.manager.jobs = none
  nextWindow : t.nextWindow = s.nextWindow
  display : t.display = s.display
  now : t.loop.now = s.loop.now
  cycleTimers : t.loop.cycleTimeout = s.loop.cycleTimeout
  releaseTimers : t.loop.releaseGrabTimeout = s.loop.releaseGrabTimeout

theorem Emptied.trans (h : Emptied s t) (h' : Emptied t u) : Emptied s u :=
  ⟨h'.windows.trans h.windows, h'.active.trans h.active, h'.lockEnabled.trans h.lockEnabled,
    h'.lockTimeout.trans h.lockTimeout, h'.cycleTimeout.trans h.cycleTimeout, h'.throttled.trans h.throttled, fun hj => h'.jobs (h.jobs hj),
    h'.nextWindow.trans h.nextWindow, h'.display.trans h.display, h'.now.trans h.now,
    h'.cycleTimers.trans h.cycleTimers, h'.releaseTimers.trans h.releaseTimers⟩

theorem emptied_gsWindowDestroy (env : SaverEnv) (s : Saver) (w : WindowId) :
    Emptied s (s.gsWindowDestroy env w) ∧
    ∀ v, (s.gsWindowDestroy env w).Live v ↔ v ≠ w ∧ s.Live v := by
  have hsteady := steady_popdownDialog env s w
  have hjobs : s.manager.jobs = none → (s.popdownDialog env w).manager.jobs = none := popdownDialog_noJobs env w
  obtain ⟨hcycle, hrelease, htimeout⟩ := popdownDialog_timers env s w
  rw [gsWindowDestroy_eq]
  generalize s.popdownDialog env w = u at hsteady hjobs hcycle hrelease htimeout
  refine ⟨⟨hsteady.windows, hsteady.active, hsteady.lockEnabled, hsteady.lockTimeout, htimeout, hsteady.throttled,
    hjobs, hsteady.nextWindow, hsteady.display, hsteady.now, hcycle, hrelease⟩, fun v => ?_⟩
  show (if v = w then none else u.windows v).isSome = true ↔ _
  by_cases hv : v = w
  · simp [hv]
  · rw [if_neg hv]
    exact (hsteady.live v).trans (by simp [hv])

theorem emptied_destroyAll (env : SaverEnv) (l : List WindowId) (s : Saver) :
    Emptied s (l.foldl (fun s w => s.gsWindowDestroy env w) s) ∧
    ∀ v, (l.foldl (fun s w => s.gsWindowDestroy env w) s).Live v ↔ v ∉ l ∧ s.Live v := by
  induction l generalizing s with
  | nil => exact ⟨⟨rfl, rfl, rfl, rfl, rfl, rfl, id, rfl, rfl, rfl, rfl, rfl⟩, fun v => by simp⟩
  | cons x l ih =>
    obtain ⟨hone, hlive⟩ := emptied_gsWindowDestroy env s x
    obtain ⟨hrest, hlive'⟩ := ih (s.gsWindowDestroy env x)
    refine ⟨hone.trans hrest, fun v => ?_⟩
    rw [List.foldl_cons, hlive', hlive, List.mem_cons]
    tauto

/-- The state in which a deactivation leaves the saver. -/
structure Ended (s t : Saver) : Prop where
  active : t.manager.active = false
  lockActive : t.manager.lockActive = false
  dialogUp : t.manager.dialogUp = false
  windows : t.manager.windows = []
  lost : ∀ w, t.windows w = none
  jobs : t.manager.jobs = none
  lockEnabled : t.manager.lockEnabled = s.manager.lockEnabled
  lockTimeout : t.manager.lockTimeout = s.manager.lockTimeout
  cycleTimeout : t.manager.cycleTimeout = s.manager.cycleTimeout
  throttled : t.manager.throttled = s.manager.throttled
  nextWindow : t.nextWindow = s.nextWindow
  display : t.display = if s.manager.windows = [] then s.display
    else { s.display with monitorAdded := 0, monitorRemoved := 0 }
  now : t.loop.now = s.loop.now
  cycleTimers : t.loop.cycleTimeout = keptTimers s.manager.cycleTimeoutId s.loop.cycleTimeout
  releaseTimers : t.loop.releaseGrabTimeout = s.loop.releaseGrabTimeout

/- The saver when its windows are about to be destroyed. -/
def silenced (s : Saver) : Saver :=
  (s.removeLockTimer.removeCycleTimer.modifyGrab .release).managerStopJobs

theorem gsManagerDeactivate_eq (env : SaverEnv) (on : s.manager.active = true) :
    s.gsManagerDeactivate env = (true, (s.silenced.gsManagerDestroyWindows env).modifyManager fun m =>
      { m with active := false, activateTime := 0, lockActive := false, dialogUp := false }) := by
  simp only [gsManagerDeactivate, on]
  rfl

theorem silenced_manager (s : Saver) : s.silenced.manager =
    { s.manager with lockTimeoutId := 0, cycleTimeoutId := 0, jobs := none } := by
  simp only [silenced, removeLockTimer_eq, removeCycleTimer_eq]
  rfl

theorem silenced_rest (s : Saver) : s.silenced.windows = s.windows ∧ s.silenced.nextWindow = s.nextWindow ∧
    s.silenced.display = s.display ∧ s.silenced.loop.now = s.loop.now ∧
    s.silenced.loop.emitDeactivatedIdle = s.loop.emitDeactivatedIdle ∧
    s.silenced.loop.shaking = s.loop.shaking := by
  simp only [silenced, removeLockTimer_eq, removeCycleTimer_eq]
  exact ⟨rfl, rfl, rfl, rfl, rfl, rfl⟩

theorem silenced_timers (s : Saver) :
    s.silenced.loop.cycleTimeout = keptTimers s.manager.cycleTimeoutId s.loop.cycleTimeout ∧
    s.silenced.loop.releaseGrabTimeout = s.loop.releaseGrabTimeout := by
  simp only [silenced, removeLockTimer_eq, removeCycleTimer_eq]
  exact ⟨rfl, rfl⟩

theorem silenced_windows (s : Saver) : s.silenced.manager.windows = s.manager.windows := by
  rw [silenced_manager]

/- The handlers of the display are disconnected before the first window goes. -/
def unplugged (s : Saver) : Saver :=
  { s with display := { s.display with monitorAdded := 0, monitorRemoved := 0 } }

theorem silenced_destroyNone (env : SaverEnv) (h : s.manager.windows = []) :
    s.silenced.gsManagerDestroyWindows env = s.silenced :=
  if_pos ((silenced_windows s).trans h)

theorem silenced_destroyAll (env : SaverEnv) (h : s.manager.windows ≠ []) :
    s.silenced.gsManagerDestroyWindows env =
      (s.manager.windows.foldl (fun t w => t.gsWindowDestroy env w) s.silenced.unplugged).modifyManager
        fun m => { m with windows := [] } := by
  rw [gsManagerDestroyWindows, if_neg fun h0 => h ((silenced_windows s).symm.trans h0)]
  show (s.silenced.manager.windows.foldl (fun (t : Saver) w => t.gsWindowDestroy env w)
    s.silenced.unplugged).modifyManager _ = _
  rw [silenced_windows]

theorem gsManagerDeactivate_ended (env : SaverEnv) (hh : s.Housed) (on : s.manager.active = true) :
    Ended s (s.gsManagerDeactivate env).2 := by
  have hm := silenced_manager s
  obtain ⟨hwin, hnext, hdisplay, hnow, -, -⟩ := silenced_rest s
  obtain ⟨hcycle, hrelease⟩ := silenced_timers s
  have hjobs : s.silenced.manager.jobs = none := by rw [hm]
  have henabled : s.silenced.manager.lockEnabled = s.manager.lockEnabled := by rw [hm]
  have htimeout : s.silenced.manager.lockTimeout = s.manager.lockTimeout := by rw [hm]
  have hperiod : s.silenced.manager.cycleTimeout = s.manager.cycleTimeout := by rw [hm]
  have hthrottled : s.silenced.manager.throttled = s.manager.throttled := by rw [hm]
  rw [gsManagerDeactivate_eq env on]
  by_cases h0 : s.manager.windows = []
  · have hlost : ∀ w, s.windows w = none := by
      intro w
      rw [← Option.not_isSome_iff_eq_none]
      intro hlive
      have hmem := (hh.listed w).2 hlive
      rw [h0] at hmem
      cases hmem
    rw [silenced_destroyNone env h0]
    exact ⟨rfl, rfl, rfl, (silenced_windows s).trans h0, fun w => (congrFun hwin w).trans (hlost w), hjobs,
      henabled, htimeout, hperiod, hthrottled, hnext, hdisplay.trans (if_pos h0).symm, hnow, hcycle, hrelease⟩
  · obtain ⟨hempty, hlive⟩ := emptied_destroyAll env s.manager.windows s.silenced.unplugged
    have hlost : ∀ w, (s.manager.windows.foldl (fun t w => t.gsWindowDestroy env w) s.silenced.unplugged).windows w
        = none := by
      intro w
      rw [← Option.not_isSome_iff_eq_none]
      intro hw
      obtain ⟨hnot, hlv⟩ := (hlive w).1 hw
      have hlv' : s.Live w := by
        rw [Live, ← hwin]
        exact hlv
      exact hnot ((hh.listed w).2 hlv')
    rw [silenced_destroyAll env h0]
    exact ⟨rfl, rfl, rfl, rfl, hlost, hempty.jobs hjobs, hempty.lockEnabled.trans henabled,
      hempty.lockTimeout.trans htimeout, hempty.cycleTimeout.trans hperiod, hempty.throttled.trans hthrottled, hempty.nextWindow.trans hnext,
      hempty.display.trans ((congrArg (fun d : Display => { d with monitorAdded := 0, monitorRemoved := 0 })
        hdisplay).trans (if_neg h0).symm), hempty.now.trans hnow, hempty.cycleTimers.trans hcycle,
      hempty.releaseTimers.trans hrelease⟩

end Saver
end MateScreensaver

import MateScreensaver.Window

/-!
The manager (gs-manager.c): one window per monitor while the saver is active,
the lock and cycle timers, and the requests that come from its windows.
-/

namespace MateScreensaver

namespace MainLoop

/- g_timeout_add, in milliseconds. -/
def timer (interval : Nat) (l : MainLoop) : Timer := ⟨l.nextId, l.now + interval, interval⟩

def removeTimer (id : SourceId) (l : List Timer) : List Timer := l.filter fun t => t.id ≠ id

end MainLoop

namespace Saver

/- gs-manager.c:453 -/
def gsManagerSetLockActive (lockActive : Bool) (s : Saver) : Saver :=
  if s.manager.lockActive ≠ lockActive then
    let s := s.modifyManager fun m => { m with lockActive := lockActive }
    s.forWindows fun w s => s.gsWindowSetLockEnabled w lockActive
  else s

/- gs-manager.c:490 -/
def gsManagerSetLockEnabled (lockEnabled : Bool) (s : Saver) : Saver :=
  s.modifyManager fun m => { m with lockEnabled := lockEnabled }

/- gs-manager.c:556 -/
def activateLockTimeout (s : Saver) : Saver :=
  let s := if s.manager.lockEnabled then s.gsManagerSetLockActive true else s
  s.modifyManager fun m => { m with lockTimeoutId := 0 }

/- gs-manager.c:569 -/
def removeLockTimer (s : Saver) : Saver :=
  let id := s.manager.lockTimeoutId
  if id ≠ 0 then
    let s := s.modifyLoop fun l =>
      { l with activateLockTimeout := MainLoop.removeTimer id l.activateLockTimeout }
    s.modifyManager fun m => { m with lockTimeoutId := 0 }
  else s

def addLockTimer (timeout : Nat) (s : Saver) : Saver :=
  let t := s.loop.timer timeout
  let s := s.modifyLoop fun l =>
    { l with nextId := l.nextId + 1, activateLockTimeout := l.activateLockTimeout ++ [t] }
  s.modifyManager fun m => { m with lockTimeoutId := t.id }

/- Milliseconds since activation, by the wall clock. -/
def elapsedSinceActivation (env : SaverEnv) (s : Saver) : Int :=
  ((env.time : Int) - s.manager.activateTime) * 1000

/- gs-manager.c:588 -/
def gsManagerSetLockTimeout (env : SaverEnv) (lockTimeout : Int) (s : Saver) : Saver :=
  if s.manager.lockTimeout ≠ lockTimeout then
    let s := s.modifyManager fun m => { m with lockTimeout := lockTimeout }
    if s.manager.active && !s.manager.lockActive && 0 ≤ lockTimeout then
      let elapsed := s.elapsedSinceActivation env
      let s := s.removeLockTimer
      if elapsed ≥ lockTimeout then s.activateLockTimeout
      else s.addLockTimer (lockTimeout - elapsed).toNat
    else s
  else s

/- gs-manager.c:751 -/
def removeCycleTimer (s : Saver) : Saver :=
  let id := s.manager.cycleTimeoutId
  if id ≠ 0 then
    let s := s.modifyLoop fun l =>
      { l with cycleTimeout := MainLoop.removeTimer id l.cycleTimeout }
    s.modifyManager fun m => { m with cycleTimeoutId := 0 }
  else s

def addCycleTimer (timeout : Nat) (s : Saver) : Saver :=
  let t := s.loop.timer timeout
  let s := s.modifyLoop fun l => { l with nextId := l.nextId + 1, cycleTimeout := l.cycleTimeout ++ [t] }
  s.modifyManager fun m => { m with cycleTimeoutId := t.id }

/- gs-manager.c:770 -/
def gsManagerSetCycleTimeout (env : SaverEnv) (cycleTimeout : Int) (s : Saver) : Saver :=
  if s.manager.cycleTimeout ≠ cycleTimeout then
    let s := s.modifyManager fun m => { m with cycleTimeout := cycleTimeout }
    if s.manager.active && 0 ≤ cycleTimeout then
      let elapsed := s.elapsedSinceActivation env
      let s := s.removeCycleTimer
      let timeout := if elapsed ≥ cycleTimeout then 0 else cycleTimeout - elapsed
      s.addCycleTimer timeout.toNat
    else s
  else s

/- The setters of gs-manager.c:502..704 store a value and hand it to the windows. -/
def gsManagerSetLogoutEnabled (b : Bool) (s : Saver) : Saver :=
  if s.manager.logoutEnabled ≠ b then
    let s := s.modifyManager fun m => { m with logoutEnabled := b }
    s.forWindows fun w s => s.modifyWindow w fun win => { win with logoutEnabled := b }
  else s

def gsManagerSetKeyboardEnabled (b : Bool) (s : Saver) : Saver :=
  if s.manager.keyboardEnabled ≠ b then
    let s := s.modifyManager fun m => { m with keyboardEnabled := b }
    s.forWindows fun w s => s.modifyWindow w fun win => { win with keyboardEnabled := b }
  else s

def gsManagerSetUserSwitchEnabled (b : Bool) (s : Saver) : Saver :=
  if s.manager.userSwitchEnabled ≠ b then
    let s := s.modifyManager fun m => { m with userSwitchEnabled := b }
    s.forWindows fun w s => s.modifyWindow w fun win => { win with userSwitchEnabled := b }
  else s

def gsManagerSetLogoutTimeout (t : Int) (s : Saver) : Saver :=
  if s.manager.logoutTimeout ≠ t then
    let s := s.modifyManager fun m => { m with logoutTimeout := t }
    s.forWindows fun w s => s.gsWindowSetLogoutTimeout w t
  else s

def gsManagerSetLogoutCommand (c : Option String) (s : Saver) : Saver :=
  let s := s.modifyManager fun m => { m with logoutCommand := c }
  s.forWindows fun w s => s.modifyWindow w fun win => { win with logoutCommand := c }

def gsManagerSetKeyboardCommand (c : Option String) (s : Saver) : Saver :=
  let s := s.modifyManager fun m => { m with keyboardCommand := c }
  s.forWindows fun w s => s.modifyWindow w fun win => { win with keyboardCommand := c }

def gsManagerSetStatusMessage (c : Option String) (s : Saver) : Saver :=
  let s := s.modifyManager fun m => { m with statusMessage := c }
  s.forWindows fun w s => s.modifyWindow w fun win => { win with statusMessage := c }

def gsManagerSetMode (mode : GSSaverMode) (s : Saver) : Saver :=
  s.modifyManager fun m => { m with saverMode := mode }

def gsManagerSetThemes (themes : List String) (s : Saver) : Saver :=
  s.modifyManager fun m => { m with themes := themes }

/- gs-manager.c:411; clearing the windows is drawing only. -/
def gsManagerSetThrottled (env : SaverEnv) (throttled : Bool) (s : Saver) : Saver :=
  if s.manager.throttled ≠ throttled then
    let s := s.modifyManager fun m => { m with throttled := throttled }
    if !s.manager.dialogUp then s.managerThrottleJobs env else s
  else s

/- gs-manager.c:706 -/
def gsManagerCycle (env : SaverEnv) (s : Saver) : Saver :=
  if !s.manager.active || s.manager.dialogUp || s.manager.throttled then s
  else s.managerCycleJobs env

/- gs-manager.c:734 -/
def cycleTimeoutCb (env : SaverEnv) (s : Saver) : Saver :=
  if !s.manager.dialogUp then s.gsManagerCycle env else s

/-- gs-manager.c:1102. The last window on the pointer's monitor, else the first of
the list; there is no result when the list is empty. -/
def findWindowAtPointer (env : SaverEnv) (s : Saver) : Option WindowId :=
  match (s.manager.windows.filter fun w => (s.window w).monitor = env.monitorAtPointer).getLast? with
  | some w => some w
  | none => s.manager.windows.head?

/-- gs-manager.c:1919. The list is tested for NULL before the pointer is looked up. -/
def gsManagerRequestUnlock (env : SaverEnv) (s : Saver) : Saver :=
  if !s.manager.active then s
  else if s.manager.dialogUp then s
  else match s.findWindowAtPointer env with
    | none => s
    | some w => s.gsWindowRequestUnlock env w

/- gs-manager.c:1142. No result is the crash on an empty list of windows. -/
def gsManagerShowMessage (env : SaverEnv) (s : Saver) : Option Saver :=
  (s.findWindowAtPointer env).map fun w => (s.gsWindowShowMessage w).gsManagerRequestUnlock env

/- gs-manager.c:1163 -/
def managerMaybeGrabWindow (env : SaverEnv) (w : WindowId) (s : Saver) : Saver :=
  if (s.window w).monitor = env.monitorAtPointer then
    s.modifyGrab (.moveToWindow (.window w) false false)
  else s

/- gs-manager.c:1237 -/
def windowMapEventCb (env : SaverEnv) (w : WindowId) (s : Saver) : Saver :=
  (s.managerMaybeGrabWindow env w).managerMaybeStartJobForWindow env w

/-- gs-manager.c:1305 -/
def managerShowWindow (env : SaverEnv) (w : WindowId) (s : Saver) : Saver :=
  let job := managerSelectThemeForJob env s.manager {}
  let s := s.managerAddJobForWindow w job
  let s := s.modifyManager fun m => { m with activateTime := env.time }
  let s := if 0 ≤ s.manager.lockTimeout then
      s.removeLockTimer.addLockTimer s.manager.lockTimeout.toNat
    else s
  if 10000 ≤ s.manager.cycleTimeout then
    s.removeCycleTimer.addCycleTimer s.manager.cycleTimeout.toNat
  else s

/- gtk_widget_show, with window_show_cb as the handler of "show". -/
def gtkWidgetShow (env : SaverEnv) (w : WindowId) (s : Saver) : Saver :=
  if (s.window w).visible then s
  else
    let s := s.modifyWindow w fun win => { win with visible := true }
    s.managerShowWindow env w

/- gs-manager.c:1366; the window has set `obscured` already. -/
def windowObscuredCb (env : SaverEnv) (w : WindowId) (s : Saver) : Saver :=
  let obscured := (s.window w).obscured
  let s := if obscured then s.managerMaybeStopJobForWindow w
    else s.managerMaybeStartJobForWindow env w
  if !obscured then s.gsManagerRequestUnlock env else s

/- gs-window-x11.c:2273 -/
def windowSetObscured (env : SaverEnv) (w : WindowId) (obscured : Bool) (s : Saver) : Saver :=
  if (s.window w).obscured = obscured then s
  else
    let s := s.modifyWindow w fun win => { win with obscured := obscured }
    s.windowObscuredCb env w

/- gs-window-x11.c:2063, with window_activity_cb as the handler of "activity". -/
def maybeHandleActivity (env : SaverEnv) (w : WindowId) (s : Saver) : Saver :=
  if (s.window w).lockSocket.isNone && (s.window w).sensitive then s.gsManagerRequestUnlock env
  else s

/- gs-window-x11.c:2544 and gs_window_set_* of the manager's settings. -/
def gsWindowNew (monitor : MonitorId) (m : GSManager) : GSWindow :=
  { monitor := monitor, lockEnabled := m.lockActive, userSwitchEnabled := m.userSwitchEnabled,
    logoutEnabled := m.logoutEnabled, logoutTimeout := m.logoutTimeout.toNat,
    logoutCommand := m.logoutCommand, keyboardEnabled := m.keyboardEnabled,
    keyboardCommand := m.keyboardCommand, statusMessage := m.statusMessage }

/-- gs-manager.c:1536 -/
def gsManagerCreateWindowForMonitor (env : SaverEnv) (monitor : MonitorId) (s : Saver) : Saver :=
  let w := s.nextWindow
  let s := { s.setWindow w (some (gsWindowNew monitor s.manager)) with nextWindow := w + 1 }
  let s := s.modifyManager fun m => { m with windows := m.windows ++ [w] }
  if s.manager.active then s.gtkWidgetShow env w else s

/- gs-manager.c:1568 -/
def onDisplayMonitorAdded (env : SaverEnv) (monitor : MonitorId) (s : Saver) : Saver :=
  let s := s.forWindows fun w s => s.gsWindowCancelUnlockRequest env w
  let s := s.gsManagerCreateWindowForMonitor env monitor
  s.gsManagerRequestUnlock env

/- One window of a removed monitor, gs-manager.c:1622. -/
def removeMonitorWindow (env : SaverEnv) (w : WindowId) (s : Saver) : Saver :=
  let s := s.managerMaybeStopJobForWindow w
  let s := s.modifyManager fun m =>
    { m with jobs := m.jobs.map fun l => l.filter fun p => p.1 ≠ w }
  let s := s.gsWindowDestroy env w
  s.modifyManager fun m => { m with windows := m.windows.filter fun v => v ≠ w }

/- gs-manager.c:1598 -/
def onDisplayMonitorRemoved (env : SaverEnv) (monitor : MonitorId) (s : Saver) : Saver :=
  s.forWindows fun w s =>
    if (s.window w).monitor = monitor then s.removeMonitorWindow env w else s

/-- gs-manager.c:1638. The handlers of the display are only disconnected when
there is a window. -/
def gsManagerDestroyWindows (env : SaverEnv) (s : Saver) : Saver :=
  if s.manager.windows = [] then s
  else
    let s := { s with display := { s.display with monitorAdded := 0, monitorRemoved := 0 } }
    let s := s.forWindows fun w s => s.gsWindowDestroy env w
    s.modifyManager fun m => { m with windows := [] }

/- gs-manager.c:1740 -/
def gsManagerCreateWindows (env : SaverEnv) (s : Saver) : Saver :=
  let s := { s with display := { s.display with
    monitorAdded := s.display.monitorAdded + 1, monitorRemoved := s.display.monitorRemoved + 1 } }
  s.display.monitors.foldl (fun s m => s.gsManagerCreateWindowForMonitor env m) s

/-- gs-manager.c:1803. Fading is compiled in but never chosen. -/
def gsManagerActivate (env : SaverEnv) (s : Saver) : Bool × Saver :=
  if s.manager.active then (false, s)
  else
    let (res, grab) := s.grab.grabWindowOnce env.grabRoot .root false false
    let s := { s with grab := grab }
    if !res then (false, s)
    else
      let s := if s.manager.windows = [] then s.gsManagerCreateWindows env else s
      let s := s.modifyManager fun m => { m with jobs := some [], active := true }
      let s := { s with activation := s.activation + 1 }
      (true, s.forWindows fun w s => s.gtkWidgetShow env w)

/-- gs-manager.c:1860 -/
def gsManagerDeactivate (env : SaverEnv) (s : Saver) : Bool × Saver :=
  if !s.manager.active then (false, s)
  else
    let s := s.removeLockTimer.removeCycleTimer
    let s := s.modifyGrab .release
    let s := s.managerStopJobs
    let s := s.gsManagerDestroyWindows env
    (true, s.modifyManager fun m =>
      { m with active := false, activateTime := 0, lockActive := false, dialogUp := false })

/- gs-manager.c:1892 -/
def gsManagerSetActive (env : SaverEnv) (active : Bool) (s : Saver) : Bool × Saver :=
  if active then s.gsManagerActivate env else s.gsManagerDeactivate env

/- The dispatch of emit_deactivated_idle, with window_deactivated_cb as the
handler of "deactivated"; the handler is gone once the window is destroyed. -/
def emitDeactivatedIdle (w : WindowId) (cause : Cause) (s : Saver) : Saver :=
  if s.Live w then
    s.modifyLoop fun l => { l with nextId := l.nextId + 1,
                                   windowDeactivatedIdle := l.windowDeactivatedIdle ++ [⟨l.nextId, cause⟩] }
  else { s with usedDestroyed := w :: s.usedDestroyed }

end Saver
end MateScreensaver

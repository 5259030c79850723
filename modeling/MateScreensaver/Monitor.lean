import MateScreensaver.Listener

/-!
The monitor (gs-monitor.c): the handlers through which the listener, the watcher
and the manager drive each other, and the settings.
-/

namespace MateScreensaver
namespace Screensaver

/- gs-monitor.c:76 -/
def managerDeactivatedCb (env : Env) (s : Screensaver) : Screensaver :=
  (s.gsListenerSetActive env false).2

/- gs-monitor.c:91 -/
def releaseGrabTimeout (s : Screensaver) : Screensaver :=
  let s := if !s.saver.manager.active then s.modifySaver (.modifyGrab .release) else s
  { s with releaseGrabId := 0 }

/-- gs-monitor.c:106. The fade itself is drawing; the grab that goes with it is not. -/
def watcherIdleNoticeCb (env : Env) (inEffect : Bool) (s : Screensaver) : Bool × Screensaver :=
  if inEffect then
    if s.listener.activationEnabled && !listenerRefEntryIsPresent s.listener .inhibit then
      (true, s.modifySaver (.modifyGrab fun g => (g.grabWindowOnce env.grabOffscreen .offscreen false false).2))
    else (false, s)
  else if !s.saver.manager.active then
    let old := s.releaseGrabId
    let s := if old ≠ 0 then
        s.modifySaver (.modifyLoop fun l => { l with releaseGrabTimeout := MainLoop.removeTimer old l.releaseGrabTimeout })
      else s
    let t := s.saver.loop.timer 1000
    let s := s.modifySaver (.modifyLoop fun l =>
      { l with nextId := l.nextId + 1, releaseGrabTimeout := l.releaseGrabTimeout ++ [t] })
    (true, { s with releaseGrabId := t.id })
  else (true, s)

/- The watcher under the monitor: gs-monitor.c:380 connects its signals. -/
def watcherHost (env : Env) : WatcherHost Screensaver where
  watcher s := s.watcher
  setWatcher w s := { s with watcher := w }
  timeoutAdd interval s :=
    let t := s.saver.loop.timer interval
    (t.id, s.modifySaver (.modifyLoop fun l =>
      { l with nextId := l.nextId + 1, onIdleTimeout := l.onIdleTimeout ++ [t] }))
  sourceRemove id s := s.modifySaver (.modifyLoop fun l =>
    { l with onIdleTimeout := MainLoop.removeTimer id l.onIdleTimeout })
  idleChanged isIdle s := s.gsListenerSetSessionIdle env isIdle
  idleNoticeChanged inEffect s := s.watcherIdleNoticeCb env inEffect

/-- gs-monitor.c:167. The lock is set before the activation and taken back when
that fails. -/
def gsMonitorLockScreen (env : Env) (s : Screensaver) : Screensaver :=
  let locked := s.saver.manager.lockActive
  let s := s.modifySaver (.gsManagerSetLockActive true)
  if !s.saver.manager.active then
    let (res, s) := s.gsListenerSetActive env true
    if !res then s.modifySaver (.gsManagerSetLockActive locked) else s
  else s

/- gs-monitor.c:203 -/
def listenerLockCb (env : Env) (s : Screensaver) : Screensaver :=
  if !s.prefs.lockDisabled then s.gsMonitorLockScreen env else s

/- gs-monitor.c:191, after poking the X screen saver. -/
def gsMonitorSimulateUserActivity (env : Env) (s : Screensaver) : Screensaver :=
  s.modifySaver (.gsManagerRequestUnlock env.toSaverEnv)

/- gs-monitor.c:216; gtk_main returns after the current iteration. -/
def listenerQuitCb (env : Env) (s : Screensaver) : Screensaver :=
  { (s.gsListenerSetActive env false).2 with quit := true }

/- gs-monitor.c:222 -/
def listenerCycleCb (env : Env) (s : Screensaver) : Screensaver :=
  s.modifySaver (.gsManagerCycle env.toSaverEnv)

/- gs-monitor.c:227; no result is a crash. -/
def listenerShowMessageCb (env : Env) (s : Screensaver) : Option Screensaver :=
  (s.saver.gsManagerShowMessage env.toSaverEnv).map fun t => { s with saver := t }

/- gs-monitor.c:277 -/
def listenerPrepareForSleepCb (env : Env) (s : Screensaver) : Option Screensaver :=
  if s.saver.manager.lockActive then s.listenerShowMessageCb env else some s

def updateStatusMessage (s : Screensaver) : Screensaver :=
  s.modifySaver (.gsManagerSetStatusMessage s.watcher.statusMessage)

/- The settings that only the manager and its windows take, gs-monitor.c:298..311. -/
def updateManagerFromPrefs (env : Env) (p : GSPrefs) (s : Saver) : Saver :=
  let s := s.gsManagerSetLockEnabled (p.lockEnabled && !p.lockDisabled)
  let s := s.gsManagerSetLockTimeout env.toSaverEnv p.lockTimeout
  let s := s.gsManagerSetLogoutEnabled p.logoutEnabled
  let s := s.gsManagerSetUserSwitchEnabled (p.userSwitchEnabled && !p.userSwitchDisabled)
  let s := s.gsManagerSetKeyboardEnabled p.keyboardEnabled
  let s := s.gsManagerSetLogoutTimeout p.logoutTimeout
  let s := s.gsManagerSetLogoutCommand p.logoutCommand
  let s := s.gsManagerSetKeyboardCommand p.keyboardCommand
  let s := s.gsManagerSetCycleTimeout env.toSaverEnv p.cycle
  let s := s.gsManagerSetMode p.mode
  s.gsManagerSetThemes p.themes

/-- gs-monitor.c:288. Idle detection is always enabled. -/
def updateFromPrefs (env : Env) (s : Screensaver) : Screensaver :=
  let s := s.modifySaver (updateManagerFromPrefs env s.prefs)
  let s := s.gsListenerSetActivationEnabled s.prefs.idleActivationEnabled
  let s := { s with watcher := gsWatcherSetEnabled true s.watcher }
  let s := if !s.saver.manager.active && !s.watcher.active then
      { s with watcher := (gsWatcherSetActive true s.watcher).2 }
    else s
  if s.prefs.statusMessageEnabled then s.updateStatusMessage
  else s.modifySaver (.gsManagerSetStatusMessage none)

/- gs-prefs.c:338 and its signal. -/
def keyChangedCb (env : Env) (k : KeyChange) (s : Screensaver) : Screensaver :=
  { s with prefs := s.prefs.keyChanged k }.updateFromPrefs env

/- gs-watcher-x11.c:407 with on_watcher_status_message_changed. -/
def onPresenceStatusTextChanged (text : Option String) (s : Screensaver) : Screensaver :=
  { s with watcher := { s.watcher with statusMessage := text } }.updateStatusMessage

end Screensaver
end MateScreensaver

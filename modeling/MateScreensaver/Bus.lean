import MateScreensaver.Monitor

/-!
Messages of the session and system bus and their dispatch
(gs-listener-dbus.c:1509..1970).
-/

namespace MateScreensaver

/- Method calls of the session bus. Arguments are absent when the message does
not have them in the expected types. -/
inductive SessionCall
  | lock
  | unlock
  | quit
  | cycle
  | inhibit (args : Option (String × String))
  | unInhibit (cookie : Option Nat)
  | getInhibitors
  | throttle (args : Option (String × String))
  | unThrottle (cookie : Option Nat)
  | setActive (path : String) (value : Option Bool)
  | getActive
  | getActiveTime
  | showMessage (args : Option (String × String × String))
  | simulateUserActivity
  | introspect
  | addMatch
  | unknown

/- Signals of the system bus, from logind or ConsoleKit. -/
inductive SystemSignal
  | logindUnlock (path : String)
  | logindLock (path : String)
  | prepareForSleep (active : Bool)
  | propertiesChanged (path : String) (properties : List String)
  | ckUnlock (path : String)
  | ckLock (path : String)
  | ckActiveChanged (path : String) (newActive : Option Bool)
  | unknown

namespace Screensaver

/- gs-listener-dbus.c:937. No result when no fresh cookie is drawn. -/
def listenerDbusAddRefEntry (env : Env) (type : RefType) (sender : BusName)
    (args : Option (String × String)) (s : Screensaver) : Option Screensaver :=
  match args with
  | none => some (s.send (.syntaxError (if type = .inhibit then "Inhibit" else "Throttle")))
  | some (application, reason) =>
    (listenerGenerateUniqueKey env s.listener type).map fun cookie =>
      let entry := { entryType := type, application := application, reason := reason,
                     connection := sender, cookie := cookie, since := env.time }
      (s.listenerAddRefEntry env type entry).send (.methodReturn (.cookie cookie))

/-- gs-listener-dbus.c:1001. The sender is read and not looked at. -/
def listenerDbusRemoveRefEntry (env : Env) (type : RefType) (cookie : Option Nat)
    (s : Screensaver) : Screensaver :=
  match cookie with
  | none => s.send (.syntaxError (if type = .inhibit then "UnInhibit" else "UnThrottle"))
  | some cookie => (s.listenerRemoveRefEntry env type cookie).2.send (.methodReturn .empty)

/- gs-listener-dbus.c:1154 for PROP_ACTIVE. -/
def listenerSetProperty (env : Env) (path : String) (value : Option Bool) (s : Screensaver) :
    Screensaver :=
  match value with
  | none => s.send (.typeMismatch path)
  | some v => (s.gsListenerSetActive env v).2.send (.methodReturn .empty)

/- gs-listener-dbus.c:1249 -/
def listenerGetActiveTime (env : Env) (l : GSListener) : Nat :=
  if l.active then
    if env.time < l.activeStart || l.activeStart ≤ 0 then 0
    else (env.time - l.activeStart) % 4294967296
  else 0

/- gs-listener-dbus.c:1307 -/
def listenerShowMessage (env : Env) (args : Option (String × String × String)) (s : Screensaver) :
    Option Screensaver :=
  if s.listener.active then
    match args with
    | none => some (s.send (.syntaxError "ShowMessage"))
    | some _ => (s.listenerShowMessageCb env).map (send (.methodReturn .empty))
  else some (s.send (.methodReturn .empty))

/-- gs-listener-dbus.c:1509 and 1923: whether the call is handled, and the state. -/
def listenerDbusHandleSessionMessage (env : Env) (sender : BusName) (call : SessionCall)
    (s : Screensaver) : Option (Bool × Screensaver) :=
  let handled (s : Screensaver) := some (true, s)
  match call with
  | .lock => handled (s.listenerLockCb env)
  | .unlock => handled (s.gsListenerSetActive env false).2
  | .quit => handled (s.listenerQuitCb env)
  | .cycle => handled (s.listenerCycleCb env)
  | .inhibit args => (s.listenerDbusAddRefEntry env .inhibit sender args).bind handled
  | .unInhibit cookie => handled (s.listenerDbusRemoveRefEntry env .inhibit cookie)
  | .getInhibitors =>
    handled (s.send (.methodReturn (.inhibitors (s.listener.inhibitors.entries.map fun e => e.2))))
  | .throttle args => (s.listenerDbusAddRefEntry env .throttle sender args).bind handled
  | .unThrottle cookie => handled (s.listenerDbusRemoveRefEntry env .throttle cookie)
  | .setActive path value => handled (s.listenerSetProperty env path value)
  | .getActive => handled (s.send (.methodReturn (.active s.listener.active)))
  | .getActiveTime => handled (s.send (.methodReturn (.activeTime (listenerGetActiveTime env s.listener))))
  | .showMessage args => (s.listenerShowMessage env args).bind handled
  | .simulateUserActivity => handled (s.gsMonitorSimulateUserActivity env)
  | .introspect => handled (s.send (.methodReturn .introspection))
  | .addMatch => handled (s.send (.methodReturn .empty))
  | .unknown => some (false, s)

theorem eq_of_handled {o : Option Screensaver} {t : Screensaver}
    (h : (o.bind fun s => some (true, s)).map Prod.snd = some t) : o = some t := by
  cases o with
  | none => cases h
  | some u => exact h

/- gs-listener-dbus.c:1599 -/
def messagePathIsOurSession (s : Screensaver) (path : String) : Bool :=
  s.listener.sessionId = some path

/- gs-listener-dbus.c:901. No result when no fresh cookie is drawn. -/
def listenerAddCkRefEntry (env : Env) (sender : BusName) (s : Screensaver) : Option Screensaver :=
  (listenerGenerateUniqueKey env s.listener .throttle).map fun cookie =>
    let entry := { entryType := .throttle, application := "ConsoleKit",
                   reason := "Session is not active", connection := sender, cookie := cookie,
                   since := env.time, fromConsoleKit := true }
    (s.listenerAddRefEntry env .throttle entry).modifyListener fun l =>
      { l with ckThrottleCookie := cookie }

/- gs-listener-dbus.c:926 with the reset of the cookie that follows both calls. -/
def listenerRemoveCkRefEntry (env : Env) (s : Screensaver) : Screensaver :=
  if s.listener.ckThrottleCookie ≠ 0 then
    let s := (s.listenerRemoveRefEntry env .throttle s.listener.ckThrottleCookie).2
    s.modifyListener fun l => { l with ckThrottleCookie := 0 }
  else s

/- gs-listener-dbus.c:1875 -/
def ckActiveChanged (env : Env) (sender : BusName) (newActive : Bool) (s : Screensaver) :
    Option Screensaver :=
  let s := s.listenerRemoveCkRefEntry env
  if newActive then some (s.gsMonitorSimulateUserActivity env)
  else s.listenerAddCkRefEntry env sender

/- gs-listener-dbus.c:1785. Falling asleep shows the dialog and then lets go of
the delay lock; waking up takes it again first. -/
def prepareForSleep (env : Env) (active : Bool) (s : Screensaver) : Option Screensaver :=
  if active then
    (s.listenerPrepareForSleepCb env).map (modifyListener fun l => { l with logindInhibitLock := 0 })
  else
    (s.modifyListener fun l => { l with logindInhibitLock := env.logindInhibit }).listenerPrepareForSleepCb env

/- gs-listener-dbus.c:1766..1833 -/
def handleLogindSignal (env : Env) (signal : SystemSignal) (s : Screensaver) : Option Screensaver :=
  match signal with
  | .logindUnlock path =>
    some (if s.messagePathIsOurSession path then (s.gsListenerSetActive env false).2 else s)
  | .logindLock path => some (if s.messagePathIsOurSession path then s.listenerLockCb env else s)
  | .prepareForSleep active => s.prepareForSleep env active
  | .propertiesChanged path properties =>
    some (if s.messagePathIsOurSession path && properties.contains "Active" && env.sdSessionIsActive then
      s.gsMonitorSimulateUserActivity env else s)
  | _ => some s

/- gs-listener-dbus.c:1836..1918 -/
def handleCkSignal (env : Env) (sender : BusName) (signal : SystemSignal) (s : Screensaver) :
    Option Screensaver :=
  match signal with
  | .ckUnlock path =>
    some (if s.messagePathIsOurSession path then (s.gsListenerSetActive env false).2 else s)
  | .ckLock path => some (if s.messagePathIsOurSession path then s.listenerLockCb env else s)
  | .ckActiveChanged path (some newActive) =>
    if s.messagePathIsOurSession path then s.ckActiveChanged env sender newActive else some s
  | _ => some s

/-- gs-listener-dbus.c:1746 -/
def listenerDbusHandleSystemMessage (env : Env) (sender : BusName) (signal : SystemSignal)
    (s : Screensaver) : Option Screensaver :=
  if s.config.withSystemd && s.listener.haveSystemd then s.handleLogindSignal env signal
  else if s.config.withConsoleKit then s.handleCkSignal env sender signal
  else some s

end Screensaver
end MateScreensaver

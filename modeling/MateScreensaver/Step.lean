import MateScreensaver.Bus
import MateScreensaver.Lib.Runs

/-!
The running process as a labelled system. One step is one dispatch of the main
loop: an idle, a timer, a watch, an X event or a message of one of the buses.
While shake_dialog iterates the loop, its own watch cannot be dispatched again.
-/

namespace MateScreensaver
open Runs

inductive Event
  | presenceStatus (status : Nat)
  | presenceStatusText (text : Option String)
  | keyChanged (k : KeyChange)
  | sessionCall (sender : BusName) (call : SessionCall)
  | nameOwnerChanged (name oldOwner newOwner : BusName)
  | systemSignal (sender : BusName) (signal : SystemSignal)
  | monitorAdded (monitor : MonitorId)
  | monitorRemoved (monitor : MonitorId)
  | activity (w : WindowId)
  | mapEvent (w : WindowId)
  | visibilityNotify (w : WindowId) (obscured : Bool)
  | grabBroken (w : WindowId) (otherGrabbed : Bool)
  | lockPlugRemoved (w : WindowId)
  | jobDied (w : WindowId)
  | onIdleTimeout (id : SourceId)
  | releaseGrabTimeout (id : SourceId)
  | activateLockTimeout (id : SourceId)
  | cycleTimeout (id : SourceId)
  | infoBarTimeout (id : SourceId)
  | emitDeactivatedIdle (id : SourceId)
  | windowDeactivatedIdle (id : SourceId)
  | popupDialogIdle (id : SourceId)
  | lockCommandWatch (id : SourceId) (input : WatchInput)
  | keyboardCommandWatch (id : SourceId) (input : WatchInput)
  | shakeEnd

namespace MainLoop

/- A timer that may fire: attached, and its time has come. -/
def due (l : MainLoop) (id : SourceId) (ts : List Timer) : Option Timer :=
  ts.find? fun t => t.id = id ∧ t.due ≤ l.now

def rearm (l : MainLoop) (id : SourceId) (ts : List Timer) : List Timer :=
  ts.map fun t => if t.id = id then { t with due := l.now + t.interval } else t

def findSource (id : SourceId) (l : List WindowSource) : Option WindowSource :=
  l.find? fun x => x.id = id

/- A source is not dispatched while its own callback is running. -/
def blocked (l : MainLoop) (id : SourceId) : Bool := l.shaking.any fun x => x.id = id

end MainLoop

namespace Screensaver

def visible (s : Screensaver) (w : WindowId) : Bool := (s.saver.window w).visible && s.saver.Live w

/- The handlers of monitor-added and monitor-removed run as often as they are connected. -/
def repeated (f : Saver → Saver) : Nat → Saver → Saver
  | 0, s => s
  | n + 1, s => repeated f n (f s)

def monitorAdded (env : Env) (m : MonitorId) (s : Saver) : Saver :=
  let s := { s with display := { s.display with monitors := s.display.monitors ++ [m] } }
  repeated (.onDisplayMonitorAdded env.toSaverEnv m) s.display.monitorAdded s

def monitorRemoved (env : Env) (m : MonitorId) (s : Saver) : Saver :=
  let s := { s with display := { s.display with monitors := s.display.monitors.filter fun x => x ≠ m } }
  repeated (.onDisplayMonitorRemoved env.toSaverEnv m) s.display.monitorRemoved s

/- gs-watcher-x11.c:338 under the monitor; TRUE arms the timer again. -/
def idleTimeout (env : Env) (id : SourceId) (s : Screensaver) : Screensaver :=
  let (again, s) := MateScreensaver.onIdleTimeout (watcherHost env) s
  s.modifySaver (.modifyLoop fun l =>
    { l with onIdleTimeout := if again then l.rearm id l.onIdleTimeout
                              else MainLoop.removeTimer id l.onIdleTimeout })

/- The dispatch of a dialog's watch; FALSE takes it off the loop. -/
def lockCommandWatch (env : Env) (x : WindowSource) (input : WatchInput) (s : Saver) : Saver :=
  let (keep, s) := s.lockCommandWatch env.toSaverEnv x.window x.id input
  if keep then s
  else s.modifyLoop fun l => { l with lockCommandWatch := MainLoop.removeId x.id l.lockCommandWatch }

def keyboardCommandWatch (x : WindowSource) (input : WatchInput) (s : Saver) : Saver :=
  let (keep, s) := s.keyboardCommandWatch x.window input
  if keep then s
  else s.modifyLoop fun l =>
    { l with keyboardCommandWatch := MainLoop.removeId x.id l.keyboardCommandWatch }

/-- What one event does, when it can happen in this state. -/
def dispatch (env : Env) (s : Screensaver) : Event → Option Screensaver
  | .presenceStatus status => some (setStatus (watcherHost env) status s)
  | .presenceStatusText text => some (s.onPresenceStatusTextChanged text)
  | .keyChanged k => some (s.keyChangedCb env k)
  | .sessionCall sender call => (s.listenerDbusHandleSessionMessage env sender call).map Prod.snd
  | .nameOwnerChanged _ oldOwner _ => some (s.listenerServiceDeleted env oldOwner)
  | .systemSignal sender signal => s.listenerDbusHandleSystemMessage env sender signal
  | .monitorAdded m =>
    if m ∈ s.saver.display.monitors then none else some (s.modifySaver (monitorAdded env m))
  | .monitorRemoved m =>
    if m ∈ s.saver.display.monitors then some (s.modifySaver (monitorRemoved env m)) else none
  | .activity w =>
    if s.visible w then some (s.modifySaver (.maybeHandleActivity env.toSaverEnv w)) else none
  | .mapEvent w =>
    if s.visible w then some (s.modifySaver (.windowMapEventCb env.toSaverEnv w)) else none
  | .visibilityNotify w obscured =>
    if s.visible w then some (s.modifySaver (.windowSetObscured env.toSaverEnv w obscured)) else none
  | .grabBroken w otherGrabbed =>
    if s.visible w then
      some (if otherGrabbed then s
        else s.modifySaver (.modifyGrab fun g => { g with grabWindow := none }))
    else none
  | .lockPlugRemoved w =>
    if s.visible w && (s.saver.window w).lockBox then some (s.modifySaver (.lockPlugRemoved w))
    else none
  | .jobDied w =>
    if (s.saver.lookupJobForWindow w).any GSJob.isRunning then
      some (s.modifySaver (.updateJob w GSJob.died))
    else none
  | .onIdleTimeout id =>
    (s.saver.loop.due id s.saver.loop.onIdleTimeout).map fun _ => s.idleTimeout env id
  | .releaseGrabTimeout id =>
    (s.saver.loop.due id s.saver.loop.releaseGrabTimeout).map fun _ =>
      s.releaseGrabTimeout.modifySaver (.modifyLoop fun l =>
        { l with releaseGrabTimeout := MainLoop.removeTimer id l.releaseGrabTimeout })
  | .activateLockTimeout id =>
    (s.saver.loop.due id s.saver.loop.activateLockTimeout).map fun _ =>
      s.modifySaver fun v => v.activateLockTimeout.modifyLoop fun l =>
        { l with activateLockTimeout := MainLoop.removeTimer id l.activateLockTimeout }
  | .cycleTimeout id =>
    (s.saver.loop.due id s.saver.loop.cycleTimeout).map fun _ =>
      s.modifySaver fun v => (v.cycleTimeoutCb env.toSaverEnv).modifyLoop fun l =>
        { l with cycleTimeout := l.rearm id l.cycleTimeout }
  | .infoBarTimeout id =>
    (MainLoop.findSource id s.saver.loop.infoBarTimeout).map fun x =>
      s.modifySaver fun v => (v.infoBarTimeout x.window).modifyLoop fun l =>
        { l with infoBarTimeout := MainLoop.removeId id l.infoBarTimeout }
  | .emitDeactivatedIdle id =>
    (s.saver.loop.emitDeactivatedIdle.find? fun x => x.id = id).map fun x =>
      s.modifySaver fun v => (v.emitDeactivatedIdle x.window x.cause).modifyLoop fun l =>
        { l with emitDeactivatedIdle := l.emitDeactivatedIdle.filter fun y => y.id ≠ id }
  | .windowDeactivatedIdle id =>
    (s.saver.loop.windowDeactivatedIdle.find? fun x => x.id = id).map fun _ =>
      (s.managerDeactivatedCb env).modifySaver (.modifyLoop fun l =>
        { l with windowDeactivatedIdle := l.windowDeactivatedIdle.filter fun y => y.id ≠ id })
  | .popupDialogIdle id =>
    (MainLoop.findSource id s.saver.loop.popupDialogIdle).map fun x =>
      s.modifySaver fun v => (v.popupDialogIdle env.toSaverEnv x.window).modifyLoop fun l =>
        { l with popupDialogIdle := MainLoop.removeId id l.popupDialogIdle }
  | .lockCommandWatch id input =>
    if s.saver.loop.blocked id then none
    else (MainLoop.findSource id s.saver.loop.lockCommandWatch).map fun x =>
      s.modifySaver (lockCommandWatch env x input)
  | .keyboardCommandWatch id input =>
    (MainLoop.findSource id s.saver.loop.keyboardCommandWatch).map fun x =>
      s.modifySaver (keyboardCommandWatch x input)
  | .shakeEnd =>
    match s.saver.loop.shaking with
    | [] => none
    | x :: rest => some (s.modifySaver fun v =>
        (v.shakeDialogEnd x.window).modifyLoop fun l => { l with shaking := rest })

def tick (env : Env) (s : Screensaver) : Screensaver :=
  s.modifySaver (.modifyLoop fun l => { l with now := l.now + env.elapsed })

def step (s : Screensaver) (label : Env × Event) : Option Screensaver :=
  if s.quit then none else (s.tick label.1).dispatch label.1 label.2

end Screensaver

/- What the process finds when it starts. -/
structure Boot where
  config : BuildConfig
  settings : Settings
  monitors : List MonitorId
  nodup : monitors.Nodup
  haveSystemd : Bool
  sessionId : Option String
  statusMessage : Option String
  logindInhibitLock : Nat
  now : Nat

/- gs_monitor_init, before the settings reach the parts. -/
def Boot.unsettled (b : Boot) : Screensaver where
  config := b.config
  listener := { haveSystemd := b.haveSystemd, sessionId := b.sessionId,
                logindInhibitLock := b.logindInhibitLock }
  watcher := { statusMessage := b.statusMessage }
  prefs := .load b.settings
  saver := { display := { monitors := b.monitors }, loop := { now := b.now } }

/-- gs_monitor_init and gs_listener_acquire. -/
def Boot.start (b : Boot) (env : Env) : Screensaver := b.unsettled.updateFromPrefs env

/- Every run of the screensaver. -/
def screensaver : System Screensaver (Env × Event) :=
  ⟨fun s => ∃ b env, s = Boot.start b env, Screensaver.step⟩

end MateScreensaver

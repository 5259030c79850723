import MateScreensaver.Lib.Table
import MateScreensaver.Manager
import MateScreensaver.Watcher
import MateScreensaver.Prefs

/-!
The listener (gs-listener-dbus.c): the active and idle state it answers for on
the session bus, and the registry of inhibitors and throttlers. Its signals have
one handler each, in gs-monitor.c; a signal is emitted by calling it.
-/

namespace MateScreensaver

/- Unique or well-known names of a message bus. -/
abbrev BusName := String

inductive RefType
  | inhibit
  | throttle
  deriving DecidableEq, Repr

/- gs-listener-dbus.c:104; `fromConsoleKit` only tells the two callers of
listener_add_ref_entry apart and is never read. -/
structure RefEntry where
  entryType : RefType
  application : String
  reason : String
  connection : BusName
  cookie : Nat
  foreignCookie : Nat := 0
  since : Nat := 0
  fromConsoleKit : Bool := false
  deriving DecidableEq, Repr

/- gs-listener-dbus.c:79 -/
structure GSListener where
  sessionIdle : Bool := false
  active : Bool := false
  activationEnabled : Bool := false
  throttled : Bool := false
  inhibitors : Table Nat RefEntry := ∅
  throttlers : Table Nat RefEntry := ∅
  activeStart : Nat := 0
  sessionIdleStart : Nat := 0
  sessionId : Option String := none
  haveSystemd : Bool := false
  logindInhibitLock : Nat := 0
  ckThrottleCookie : Nat := 0

/- gs-listener-dbus.c:305 -/
def GSListener.table (l : GSListener) : RefType → Table Nat RefEntry
  | .inhibit => l.inhibitors
  | .throttle => l.throttlers

def GSListener.setTable (type : RefType) (t : Table Nat RefEntry) (l : GSListener) : GSListener :=
  match type with
  | .inhibit => { l with inhibitors := t }
  | .throttle => { l with throttlers := t }

def listenerRefEntryIsPresent (l : GSListener) (type : RefType) : Bool := !(l.table type).isEmpty

/- Answers to method calls. -/
inductive Reply
  | empty
  | cookie (n : Nat)
  | active (b : Bool)
  | activeTime (secs : Nat)
  | inhibitors (l : List RefEntry)
  | introspection
  deriving DecidableEq

/- What goes out on the session bus. -/
inductive BusMessage
  | activeChanged (active : Bool)
  | methodReturn (r : Reply)
  | syntaxError (method : String)
  | typeMismatch (path : String)
  | sessionInhibit (application reason : String)
  | sessionUninhibit (cookie : Nat)
  deriving DecidableEq

/- Configuration of the build. -/
structure BuildConfig where
  withSystemd : Bool
  withConsoleKit : Bool

/-- The whole process: gs-monitor.c and what it owns. `activations` is history:
the listener as it was at each call that turned it active. -/
structure Screensaver where
  config : BuildConfig
  listener : GSListener := {}
  watcher : GSWatcher := {}
  prefs : GSPrefs := {}
  releaseGrabId : SourceId := 0
  saver : Saver := {}
  sent : List BusMessage := []
  activations : List GSListener := []
  quit : Bool := false

/- g_random_int_range (1, G_MAXINT32). -/
abbrev Draw := { n : Nat // 1 ≤ n ∧ n < 2147483647 }

/- Answers of other processes while one event is handled. `draws` are the random
numbers in the order they come. -/
structure Env extends SaverEnv where
  draws : List Draw
  sessionInhibit : Option Nat
  sessionUninhibit : Bool
  logindInhibit : Nat
  sdSessionIsActive : Bool

namespace Screensaver

def modifySaver (f : Saver → Saver) (s : Screensaver) : Screensaver := { s with saver := f s.saver }
def modifyListener (f : GSListener → GSListener) (s : Screensaver) : Screensaver :=
  { s with listener := f s.listener }
def send (m : BusMessage) (s : Screensaver) : Screensaver := { s with sent := s.sent ++ [m] }

/-- gs-monitor.c:228, the handler of active-changed. -/
def listenerActiveChangedCb (env : Env) (active : Bool) (s : Screensaver) : Bool × Screensaver :=
  let (res, saver) := s.saver.gsManagerSetActive env.toSaverEnv active
  let s := { s with saver := saver }
  if res && s.watcher.enabled then
    (res, { s with watcher := (gsWatcherSetActive (!active) s.watcher).2 })
  else (res, s)

/- gs-listener-dbus.c:394 -/
def listenerSetSessionIdleInternal (env : Env) (idle : Bool) (s : Screensaver) : Screensaver :=
  s.modifyListener fun l =>
    { l with sessionIdle := idle, sessionIdleStart := if idle then env.time else 0 }

/- gs-listener-dbus.c:412 -/
def listenerSetActiveInternal (env : Env) (active : Bool) (s : Screensaver) : Screensaver :=
  let s := s.modifyListener fun l => { l with active := active }
  let s := if s.listener.sessionIdle ≠ active then s.listenerSetSessionIdleInternal env active else s
  let s := s.modifyListener fun l => { l with activeStart := if active then env.time else 0 }
  s.send (.activeChanged s.listener.active)

/-- gs-listener-dbus.c:437 -/
def gsListenerSetActive (env : Env) (active : Bool) (s : Screensaver) : Bool × Screensaver :=
  if s.listener.active = active then (false, s)
  else
    let before := s.listener
    let (res, s) := s.listenerActiveChangedCb env active
    if !res then (false, if active then s.listenerSetSessionIdleInternal env false else s)
    else
      let s := s.listenerSetActiveInternal env active
      (true, if active then { s with activations := s.activations ++ [before] } else s)

/-- gs-listener-dbus.c:330 -/
def listenerCheckActivation (env : Env) (s : Screensaver) : Bool × Screensaver :=
  if !s.listener.activationEnabled then (true, s)
  else if !s.listener.sessionIdle then (true, s)
  else if listenerRefEntryIsPresent s.listener .inhibit then (false, s)
  else s.gsListenerSetActive env true

/- gs-listener-dbus.c:361, with gs-monitor.c:254 as the handler. -/
def gsListenerSetThrottle (env : Env) (throttled : Bool) (s : Screensaver) : Screensaver :=
  if s.listener.throttled ≠ throttled then
    let s := s.modifyListener fun l => { l with throttled := throttled }
    s.modifySaver (.gsManagerSetThrottled env.toSaverEnv throttled)
  else s

/- gs-listener-dbus.c:377 -/
def listenerCheckThrottle (env : Env) (s : Screensaver) : Screensaver :=
  let throttled := listenerRefEntryIsPresent s.listener .throttle
  if throttled ≠ s.listener.throttled then s.gsListenerSetThrottle env throttled else s

/-- gs-listener-dbus.c:476 -/
def gsListenerSetSessionIdle (env : Env) (idle : Bool) (s : Screensaver) : Bool × Screensaver :=
  if s.listener.sessionIdle = idle then (false, s)
  else if idle && listenerRefEntryIsPresent s.listener .inhibit then (false, s)
  else
    let s := s.modifyListener fun l => { l with sessionIdle := idle }
    let (res, s) := s.listenerCheckActivation env
    if res then (true, s.listenerSetSessionIdleInternal env idle)
    else (false, s.modifyListener fun l => { l with sessionIdle := !idle })

/- gs-listener-dbus.c:540 -/
def gsListenerSetActivationEnabled (enabled : Bool) (s : Screensaver) : Screensaver :=
  s.modifyListener fun l => { l with activationEnabled := enabled }

/- gs-listener-dbus.c:624. Draws until one is not in the table; there is no
result when the numbers run out before. -/
def listenerGenerateUniqueKey (env : Env) (l : GSListener) (type : RefType) : Option Nat :=
  (env.draws.find? fun c => (l.table type).lookup c.1 = none).map Subtype.val

/- gs-listener-dbus.c:642 -/
def listenerRefEntryCheck (env : Env) (type : RefType) (s : Screensaver) : Screensaver :=
  match type with
  | .inhibit => (s.listenerCheckActivation env).2
  | .throttle => s.listenerCheckThrottle env

/- gs-listener-dbus.c:660: the cookie of the session manager, if it answers. -/
def addSessionInhibit (env : Env) (entry : RefEntry) (s : Screensaver) : Screensaver :=
  let s := s.send (.sessionInhibit entry.application entry.reason)
  match env.sessionInhibit with
  | some c => s.modifyListener fun l =>
      { l with inhibitors := l.inhibitors.insert entry.cookie { entry with foreignCookie := c } }
  | none => s

/- gs-listener-dbus.c:713 -/
def removeSessionInhibit (entry : RefEntry) (s : Screensaver) : Screensaver :=
  if entry.foreignCookie = 0 then s else s.send (.sessionUninhibit entry.foreignCookie)

/-- gs-listener-dbus.c:763 -/
def listenerAddRefEntry (env : Env) (type : RefType) (entry : RefEntry) (s : Screensaver) :
    Screensaver :=
  let s := s.modifyListener fun l => l.setTable type ((l.table type).insert entry.cookie entry)
  let s := if type = .inhibit then s.addSessionInhibit env entry else s
  s.listenerRefEntryCheck env type

/-- gs-listener-dbus.c:788 -/
def listenerRemoveRefEntry (env : Env) (type : RefType) (cookie : Nat) (s : Screensaver) :
    Bool × Screensaver :=
  match (s.listener.table type).lookup cookie with
  | none => (false, s)
  | some entry =>
    let s := if type = .inhibit then s.removeSessionInhibit entry else s
    let s := s.modifyListener fun l => l.setTable type ((l.table type).erase cookie)
    (true, s.listenerRefEntryCheck env type)

/- gs-listener-dbus.c:1052. The iterator meets every entry once. -/
def listenerRefEntryRemoveForConnection (type : RefType) (connection : BusName) (s : Screensaver) :
    Bool × Screensaver :=
  let mine (e : RefEntry) : Bool := e.connection = connection
  let t := s.listener.table type
  let s := (t.entries.filter fun e => mine e.2 && e.2.entryType = .inhibit).foldl
    (fun s e => s.removeSessionInhibit e.2) s
  (t.any mine, s.modifyListener fun l => l.setTable type (t.removeIf mine))

/- What is sent for an entry that goes. -/
def farewell (entry : RefEntry) : List BusMessage :=
  if entry.foreignCookie = 0 then [] else [.sessionUninhibit entry.foreignCookie]

theorem removeSessionInhibit_eq (entry : RefEntry) (s : Screensaver) :
    s.removeSessionInhibit entry = { s with sent := s.sent ++ farewell entry } := by
  unfold removeSessionInhibit farewell
  split
  · rw [List.append_nil]
  · rfl

theorem removeSessionInhibits_eq (l : List (Sigma fun _ : Nat => RefEntry)) (s : Screensaver) :
    l.foldl (fun s e => s.removeSessionInhibit e.2) s =
      { s with sent := s.sent ++ l.flatMap fun e => farewell e.2 } := by
  induction l generalizing s with
  | nil => rw [List.flatMap_nil, List.append_nil, List.foldl_nil]
  | cons e l ih =>
    rw [List.foldl_cons, ih, removeSessionInhibit_eq, List.flatMap_cons, List.append_assoc]

/-- gs-listener-dbus.c:1094. The signal is NameOwnerChanged (name, old owner, new
owner) and the code takes its second argument for the service that is gone. -/
def listenerServiceDeleted (env : Env) (newServiceName : BusName) (s : Screensaver) : Screensaver :=
  let (removed, s) := s.listenerRefEntryRemoveForConnection .throttle newServiceName
  let s := if removed then s.listenerRefEntryCheck env .throttle else s
  let (removed, s) := s.listenerRefEntryRemoveForConnection .inhibit newServiceName
  if removed then s.listenerRefEntryCheck env .inhibit else s

end Screensaver
end MateScreensaver
